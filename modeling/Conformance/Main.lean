import Conformance.Run.Program
/-!
# The executable

Looks up what a command may ask for, lets the program answer, and carries the answer out. Files are read
before the program runs: first those a configuration may come from, then those the configuration names.
-/

namespace Conformance.Executable

/-- The cause of a failed use of a file. -/
def cause : IO.Error → FileError
  | .noFileOrDirectory _ _ _ => .notFound
  | .inappropriateType _ 20 _ => .notADirectory
  | .inappropriateType _ 21 _ => .isADirectory
  | e => .other (toString e)

/-- Uses a file, keeping the cause of a failure. -/
def attempt (use : IO α) : IO (Except FileError α) := do
  try return .ok (← use) catch e => return .error (cause e)

/-- What is known about files: what was read, and what was opened for appending. -/
structure Known where
  contents : List (String × Except FileError ByteArray)
  opened : List (String × Except FileError Unit)

/-- What is known, as a disk. -/
def Known.disk (k : Known) : Disk where
  read path := (k.contents.lookup path).getD (.error .notFound)
  isFile path := (k.contents.lookup path).any fun r => r.toOption.isSome
  appendable path := (k.opened.lookup path).getD (.error .notFound)

/-- Reads files. -/
def Known.reading (k : Known) (paths : List String) : IO Known := do
  let contents ← paths.mapM fun (path : String) => return (path, ← attempt (IO.FS.readBinFile path))
  return { k with contents := k.contents ++ contents }

/-- Opens a file for appending. -/
def Known.opening (k : Known) (path : String) : IO Known := do
  let result ← attempt (IO.FS.withFile path .append fun _ => pure ())
  return { k with opened := (path, result) :: k.opened }

/-- The files a configuration may come from. -/
def sources (env : Environment) (o : Options) : List String :=
  o.config.toList ++ ((env.text .configPath).toOption.bind id).toList ++ [Config.defaultName]

/-- No target is reached from here: every exchange fails, naming the URL it was meant for. -/
def unreachable (base : WebUrl) (_ : UInt64) : Transport := fun _ path =>
  .failed ⟨.connect, base.request path⟩

/-- Finds out what a subcommand may ask for. -/
def explore (s : Surroundings) (c : Subcommand) (o : Options) : IO Known := do
  let known ← Known.reading ⟨[], []⟩ (sources s.environment o)
  match Program.configuration { s with disk := known.disk } o with
  | .error _ => return known
  | .ok config =>
    let schemas := config.resources.filterMap fun e => e.schema.map config.resolve
    let known ← if c = .run then known.reading schemas else pure known
    let ready := c ≠ .run ∨ (SchemaRegistry.ofConfig known.disk config).toOption.isSome
    match c, config.audit with
    | .run, ⟨.file, some path⟩ | .workflow, ⟨.file, some path⟩ =>
      if ready then known.opening (config.resolve path) else return known
    | _, _ => return known

/-- The variables that are set. -/
def environment : IO Environment := do
  let values ← Variable.all.mapM fun v => return (v, (← IO.getEnv v.name).map String.toUTF8)
  return fun v => (values.lookup v).bind id

/-- Carries out an answer. -/
def carryOut (a : Answer) : IO UInt32 := do
  (← IO.getStderr).putStr a.stderr
  match a.appended with
  | some (path, text) => IO.FS.withFile path .append fun h => h.putStr text
  | none => pure ()
  (← IO.getStdout).putStr a.stdout
  return a.exit.toUInt32

end Conformance.Executable

open Conformance Executable in
/-- Answers the arguments of the program. -/
def main (arguments : List String) : IO UInt32 := do
  let around : Surroundings := ⟨Known.disk ⟨[], []⟩, ← environment, unreachable, ← IO.monoMsNow⟩
  match ArgumentLibrary.read arguments with
  | .ok (.perform c o) =>
    let known ← explore around c o
    carryOut (Program.answer { around with disk := known.disk } arguments)
  | _ => carryOut (Program.answer around arguments)
