/-!
# Wording

Every line shown to a person comes from the catalog of templates below. A template marks the places of
its arguments as names in braces. `translate` fills them in one argument after the other, each over the
text so far, so a value that itself spells a later placeholder is filled in as well.
-/

namespace Conformance.Wording

/-- A named value for a template. -/
abbrev Argument := String × String

/-- The templates by key. -/
def catalog : List (String × String) := [
  ("main.version", "compliance-harness \x7bversion\x7d"),
  ("output.stream.stdout", "stdout"),
  ("output.stream.stderr", "stderr"),
  ("output.stream.unknown", "output"),
  ("output.write_failed", "Failed to write to \x7bstream\x7d: \x7berror\x7d"),
  ("output.render_failed", "Failed to render \x7bformat\x7d output: \x7berror\x7d"),
  ("config.load_failed", "Failed to load config: \x7berror\x7d"),
  ("config.env_failed", "Invalid environment override: \x7berror\x7d"),
  ("config.override_failed", "Invalid command-line override: \x7berror\x7d"),
  ("config.validate.ok",
    "Config valid: \x7bresources\x7d resources, \x7bchecks\x7d planned checks, " ++
    "\x7bscenarios\x7d workflow scenarios."),
  ("audit.open_failed", "Failed to open audit log \x7bpath\x7d: \x7berror\x7d"),
  ("schema.load_failed", "Failed to load body schemas: \x7berror\x7d"),
  ("transport.build_failed", "Failed to build HTTP transport: \x7berror\x7d"),
  ("report.plan.header", "Planned checks: \x7bcount\x7d"),
  ("report.plan.entry", "\x7bverb\x7d \x7bpath\x7d -> \x7bstatus\x7d \x7bcontent_type\x7d"),
  ("report.plan.unconstrained", "(content type unconstrained)"),
  ("report.verdict.pass", "PASS \x7bverb\x7d \x7bpath\x7d (\x7bstatus\x7d)"),
  ("report.verdict.fail", "FAIL \x7bverb\x7d \x7bpath\x7d: \x7bviolation\x7d"),
  ("report.verdict.fail_more", "FAIL \x7bverb\x7d \x7bpath\x7d: \x7bviolation\x7d (+\x7bmore\x7d more)"),
  ("report.verdict.inconclusive", "INCONCLUSIVE \x7bverb\x7d \x7bpath\x7d: \x7bfailure\x7d"),
  ("report.annotation", "  note: \x7blabel\x7d (\x7bdetail\x7d)"),
  ("report.scenario.pass",
    "PASS scenario \"\x7bname\x7d\" (final phase \x7bphase\x7d, \x7btransitions\x7d transitions)"),
  ("report.scenario.fail",
    "FAIL scenario \"\x7bname\x7d\" at step \x7bstep\x7d (\x7baction\x7d \x7belement\x7d): \x7breason\x7d"),
  ("report.summary",
    "Summary: \x7bstatus\x7d; checks \x7bchecks\x7d, passed \x7bpassed\x7d, failed \x7bfailed\x7d, " ++
    "inconclusive \x7binconclusive\x7d, schema not performed \x7bschema\x7d; " ++
    "scenarios \x7bscenarios\x7d, failed \x7bscenarios_failed\x7d.")]

/-- The template of a key; a key without one is its own template. -/
def template (key : String) : String :=
  match catalog.find? fun e => e.1 == key with
  | some (_, t) => t
  | none => key

/-- The mark that stands for an argument. -/
def placeholder (name : String) : List Char := '\x7b' :: name.toList ++ ['\x7d']

/-- Replaces every occurrence of a mark, from left to right. -/
def replaceAll (mark value : List Char) : List Char → List Char
  | [] => []
  | c :: cs =>
    if mark.isPrefixOf (c :: cs) then value ++ replaceAll mark value (cs.drop (mark.length - 1))
    else c :: replaceAll mark value cs
termination_by cs => cs.length
decreasing_by all_goals simp; try omega

/-- Fills one argument into a text. -/
def fill (text : List Char) (a : Argument) : List Char :=
  replaceAll (placeholder a.1) a.2.toList text

/-- The text of a key with its arguments filled in, in order. -/
def translate (key : String) (args : List Argument) : String :=
  String.ofList (args.foldl fill (template key).toList)

end Conformance.Wording
