import Conformance.Pattern.Basic
/-!
# Matching

A pattern matches a text that holds it anywhere. A regular expression leads from places in a text to places
behind what it covers. As long as no preference counts, all places are followed at once, so no choice is
ever taken back. Otherwise it leads along ways, which remember what groups covered, and the preferred way
comes first.
-/

namespace Conformance.Regex

/-- A character of a text, by its place. -/
abbrev Text := Array Char

/-- A character that is part of a word. -/
def isWordAt (t : Text) (i : Nat) : Bool := (t[i]?).any CharSet.wideWord.contains

/-- A boundary is at a place. -/
def Boundary.holds (b : Boundary) (t : Text) (i : Nat) : Bool :=
  let before := 0 < i && isWordAt t (i - 1)
  let behind := isWordAt t i
  match b with
  | .textStart => i == 0
  | .textEnd => i == t.size
  | .lastLineEnds => (t.toList.drop i).all (· == '\n')
  | .lineStart => i == 0 || t[i - 1]? == some '\n'
  | .lineEnd => i == t.size || t[i]? == some '\n'
  | .wordEdge => before != behind
  | .noWordEdge => before == behind
  | .wordStart => !before && behind
  | .wordEnd => before && !behind

/-! ## Places -/

/-- Places in ascending order, each once. -/
abbrev Places := List Nat

/-- All places of two lists. -/
def Places.merge : Places → Places → Places
  | [], qs => qs
  | ps, [] => ps
  | p :: ps, q :: qs =>
    if p < q then p :: merge ps (q :: qs)
    else if q < p then q :: merge (p :: ps) qs
    else p :: merge ps qs

/-- Follows a step a number of times. -/
def times (step : Places → Places) : Nat → Places → Places
  | 0, ps => ps
  | n + 1, ps => if ps.isEmpty then ps else times step n (step ps)

/-- Follows a step up to a number of times, from all places reached so far. -/
def upTo (step : Places → Places) : Nat → Places → Places
  | 0, ps => ps
  | n + 1, ps =>
    let next := ps.merge (step ps)
    if next == ps then ps else upTo step n next

/-- The number of steps that count behind the least number: no more than lead through the whole text. -/
def room (t : Text) (least : Nat) : Option Nat → Nat
  | some most => min (most - least) (t.size + 1)
  | none => t.size + 1

/-- The places behind what a regular expression without preference covers from one of some places. -/
def ends (t : Text) : Regex → Places → Places
  | .empty, ps => ps
  | .one set, ps => (ps.filter fun i => (t[i]?).any set.contains).map (· + 1)
  | .at place, ps => ps.filter fun i => Boundary.holds place t i
  | .seq a b, ps => ends t b (ends t a ps)
  | .either a b, ps => (ends t a ps).merge (ends t b ps)
  | .repeated a least most _, ps => upTo (ends t a) (room t least most) (times (ends t a) least ps)
  | .ahead a wanted, ps => ps.filter fun i => (ends t a [i]).isEmpty != wanted
  | .behind a wanted, ps =>
    ps.filter fun i => ((List.range (i + 1)).any fun j => (ends t a [j]).contains i) == wanted
  | .group _ a, ps | .firm a, ps => ends t a ps
  | .again _ _, _ => []

/-! ## Ways -/

/-- A place in a text, with the start and the end of what groups covered on the way to it. -/
structure Way where
  place : Nat
  groups : List (Nat × Nat × Nat)
deriving DecidableEq, Repr

/-- A way on which a group has covered what stands in front of its place. -/
def Way.close (w : Way) (number start : Nat) : Way :=
  { w with groups := (number, start, w.place) :: w.groups.filter fun g => g.1 != number }

/-- The way behind the text of a group. -/
def Way.again? (t : Text) (w : Way) (number : Nat) (anyCase : Bool) : Option Way :=
  (w.groups.lookup number).bind fun (start, stop) =>
    let plain (c : Char) : Char := if anyCase then Unicode.Case.common c else c
    let part (first last : Nat) : List Char := (t.extract first last).toList.map plain
    let stop' := w.place + (stop - start)
    if stop' ≤ t.size ∧ part start stop = part w.place stop' then some { w with place := stop' } else none

/-- Ways in order of preference, each once. -/
abbrev Ways := List Way

/-- Follows a step a number of times. -/
def timesFrom (step : Way → Ways) : Nat → Ways → Ways
  | 0, ws => ws
  | n + 1, ws => if ws.isEmpty then ws else timesFrom step n (ws.flatMap step).eraseDups

/-- Adds the ways that lead from one by any number of steps to those met so far. A way that has been met
leads nowhere new. -/
def spread (step : Way → Ways) (few : Bool) : Nat → Ways → Way → Ways
  | 0, met, _ => met
  | n + 1, met, w =>
    if met.contains w then met
    else
      let next := (step w).filter fun v => w.place < v.place
      if few then next.foldl (spread step few n) (met ++ [w])
      else next.foldl (spread step few n) met ++ [w]

/-- Follows a step up to a number of times. Only the last step may lead nowhere. -/
def upToFrom (step : Way → Ways) (few : Bool) : Nat → Way → Ways
  | 0, w => [w]
  | n + 1, w =>
    let leads (v : Way) : Bool := n == 0 || w.place < v.place
    let next := ((step w).filter leads).flatMap (upToFrom step few n)
    (if few then w :: next else next ++ [w]).eraseDups

/-- The ways on which a regular expression leads from one. -/
def ways (t : Text) : Regex → Way → Ways
  | .empty, w => [w]
  | .one set, w => if (t[w.place]?).any set.contains then [{ w with place := w.place + 1 }] else []
  | .at place, w => if Boundary.holds place t w.place then [w] else []
  | .seq a b, w => ((ways t a w).flatMap (ways t b)).eraseDups
  | .either a b, w => (ways t a w ++ ways t b w).eraseDups
  | .repeated a least most few, w =>
    let start := timesFrom (ways t a) least [w]
    match most with
    | some most => (start.flatMap (upToFrom (ways t a) few (most - least))).eraseDups
    | none => start.foldl (spread (ways t a) few (t.size + 1)) []
  | .ahead a wanted, w =>
    match ways t a w, wanted with
    | v :: _, true => [{ v with place := w.place }]
    | [], false => [w]
    | _, _ => []
  | .behind a wanted, w =>
    let found := (List.range (w.place + 1)).findSome? fun j =>
      (ways t a { w with place := j }).find? fun v => v.place == w.place
    match found, wanted with
    | some v, true => [v]
    | none, false => [w]
    | _, _ => []
  | .group number a, w => (ways t a w).map fun v => v.close number w.place
  | .again number anyCase, w => (w.again? t number anyCase).toList
  | .firm a, w => (ways t a w).take 1

/-- A regular expression covers some part of a text. -/
def occursIn (r : Regex) (s : String) : Bool :=
  let t := s.toList.toArray
  let places := List.range (t.size + 1)
  if r.hasPreference then places.any fun i => !(ways t r ⟨i, []⟩).isEmpty else !(ends t r places).isEmpty

end Conformance.Regex

namespace Conformance

/-- A pattern matches a text. -/
def Pattern.matches (p : Pattern) (s : String) : Bool := p.regex.occursIn s

end Conformance
