import Conformance.Text.Character
import Conformance.Number.Decimal
/-!
# Tables of characters

Properties of characters beyond ASCII are tables. An entry covers the code points from a first to a last
one, all of them or every second, and holds numbers. The written form of a table has its entries between
blanks: `300-314:e6` covers a range, `100/12e:101` every second code point of a range, `df` a single one,
and the numbers stand behind the colon, joined with plus signs. All numbers are hexadecimal.
-/

namespace Conformance.Unicode

/-- Code points that share what a table says about them. -/
structure Entry where
  first : Nat
  last : Nat
  /-- the distance between two covered code points -/
  step : Nat
  values : List Nat
deriving DecidableEq, Repr

namespace Entry

/-- A code point an entry says something about. -/
def covers (e : Entry) (n : Nat) : Bool :=
  e.first ≤ n && n ≤ e.last && (n - e.first) % e.step == 0

/-- Reads the code points of an entry. -/
def readRange (cs : List Char) (values : List Nat) : Entry :=
  let (first, rest) := cs.span fun c => c != '-' && c != '/'
  let start := Radix.value 16 first
  match rest with
  | mark :: last => ⟨start, Radix.value 16 last, if mark = '/' then 2 else 1, values⟩
  | [] => ⟨start, start, 1, values⟩

/-- Reads an entry. -/
def read (cs : List Char) : Entry :=
  let (range, values) := cs.span (· != ':')
  readRange range
    (if values.isEmpty then [] else (Text.split '+' (values.drop 1)).map (Radix.value 16))

end Entry

/-- Entries of a property, each code point in at most one of them. -/
structure Table where
  entries : Array Entry

namespace Table

/-- Reads the written form of a table. -/
def ofText (s : String) : Table :=
  let words := Text.split ' ' (s.toList.map fun c => if c = '\n' then ' ' else c)
  ⟨((words.filter (!·.isEmpty)).map Entry.read).toArray⟩

/-- The entry of a character. -/
def entry? (t : Table) (c : Char) : Option Entry := t.entries.find? fun e => e.covers c.toNat

/-- A character the table says something about. -/
def contains (t : Table) (c : Char) : Bool := (t.entry? c).isSome

/-- The first number a table has for a character, 0 without one. -/
def value (t : Table) (c : Char) : Nat := ((t.entry? c).bind fun e => e.values.head?).getD 0

end Table

end Conformance.Unicode

/-! ## Letters without case

Characters that differ in case only have one common form. A table holds the distance from a character to
this form, where they are not the same, counted around the end of all code points.
-/

namespace Conformance.Unicode.Case

/-- The distances from characters to their common forms. -/
def table : Table := .ofText "
41-5a:20 b5:307 c0-d6:20 d8-de:20 100/12e:1 132/136:1 139/147:1 14a/176:1 178:10ff87 179/17d:1 17f:10fef4
181:d2 182:1 184:1 186:ce 187:1 189-18a:cd 18b:1 18e:4f 18f:ca 190:cb 191:1 193:cd 194:cf 196:d3 197:d1
198:1 19c:d3 19d:d5 19f:d6 1a0/1a4:1 1a6:da 1a7:1 1a9:da 1ac:1 1ae:da 1af:1 1b1-1b2:d9 1b3:1 1b5:1 1b7:db
1b8:1 1bc:1 1c4:2 1c5:1 1c7:2 1c8:1 1ca:2 1cb/1db:1 1de/1ee:1 1f1:2 1f2:1 1f4:1 1f6:10ff9f 1f7:10ffc8
1f8/21e:1 220:10ff7e 222/232:1 23a:2a2b 23b:1 23d:10ff5d 23e:2a28 241:1 243:10ff3d 244:45 245:47 246/24e:1
345:74 370:1 372:1 376:1 37f:74 386:26 388-38a:25 38c:40 38e-38f:3f 391-3a1:20 3a3-3ab:20 3c2:1 3cf:8
3d0:10ffe2 3d1:10ffe7 3d5:10fff1 3d6:10ffea 3d8/3ee:1 3f0:10ffca 3f1:10ffd0 3f4:10ffc4 3f5:10ffc0 3f7:1
3f9:10fff9 3fa:1 3fd-3ff:10ff7e 400-40f:50 410-42f:20 460/480:1 48a/4be:1 4c0:f 4c1/4cd:1 4d0/52e:1
531-556:30 10a0-10c5:1c60 10c7:1c60 10cd:1c60 13f8-13fd:10fff8 1c80:10e7b2 1c81:10e7b3 1c82:10e7bc
1c83-1c84:10e7be 1c85:10e7bd 1c86:10e7c4 1c87:10e7dc 1c88:89c3 1c90-1cba:10f440 1cbd-1cbf:10f440 1e00/1e94:1
1e9b:10ffc6 1e9e:10e241 1ea0/1efe:1 1f08-1f0f:10fff8 1f18-1f1d:10fff8 1f28-1f2f:10fff8 1f38-1f3f:10fff8
1f48-1f4d:10fff8 1f59/1f5f:10fff8 1f68-1f6f:10fff8 1f88-1f8f:10fff8 1f98-1f9f:10fff8 1fa8-1faf:10fff8
1fb8-1fb9:10fff8 1fba-1fbb:10ffb6 1fbc:10fff7 1fbe:10e3fb 1fc8-1fcb:10ffaa 1fcc:10fff7 1fd8-1fd9:10fff8
1fda-1fdb:10ff9c 1fe8-1fe9:10fff8 1fea-1feb:10ff90 1fec:10fff9 1ff8-1ff9:10ff80 1ffa-1ffb:10ff82 1ffc:10fff7
2126:10e2a3 212a:10df41 212b:10dfba 2132:1c 2160-216f:10 2183:1 24b6-24cf:1a 2c00-2c2f:30 2c60:1 2c62:10d609
2c63:10f11a 2c64:10d619 2c67/2c6b:1 2c6d:10d5e4 2c6e:10d603 2c6f:10d5e1 2c70:10d5e2 2c72:1 2c75:1
2c7e-2c7f:10d5c1 2c80/2ce2:1 2ceb:1 2ced:1 2cf2:1 a640/a66c:1 a680/a69a:1 a722/a72e:1 a732/a76e:1 a779:1
a77b:1 a77d:1075fc a77e/a786:1 a78b:1 a78d:105ad8 a790:1 a792:1 a796/a7a8:1 a7aa:105abc a7ab:105ab1
a7ac:105ab5 a7ad:105abf a7ae:105abc a7b0:105aee a7b1:105ad6 a7b2:105aeb a7b3:3a0 a7b4/a7c2:1 a7c4:10ffd0
a7c5:105abd a7c6:1075c8 a7c7:1 a7c9:1 a7d0:1 a7d6:1 a7d8:1 a7f5:1 ab70-abbf:106830 ff21-ff3a:20
10400-10427:28 104b0-104d3:28 10570-1057a:27 1057c-1058a:27 1058c-10592:27 10594-10595:27 10c80-10cb2:40
118a0-118bf:20 16e40-16e5f:20 1e900-1e921:22"

/-- The number of code points. -/
def codePoints : Nat := 0x110000

/-- The common form of a character and all that differ from it in case only. -/
def common (c : Char) : Char := Char.ofNat ((c.toNat + table.value c) % codePoints)

/-- The characters that have a common form, the form itself included. -/
def withCommon (form : Char) : List Char :=
  form :: table.entries.toList.filterMap fun e =>
    let n := (form.toNat + codePoints - e.values.headD 0) % codePoints
    if e.covers n then some (Char.ofNat n) else none

/-- The characters that differ from a character in case only, the character itself included. -/
def variants (c : Char) : List Char := withCommon (common c)

end Conformance.Unicode.Case
