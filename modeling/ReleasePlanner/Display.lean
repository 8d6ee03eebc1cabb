import ReleasePlanner.Lint.Report
import ReleasePlanner.Release.Execute
import ReleasePlanner.Text.Style
import ReleasePlanner.Warning

/-!
# Display

What the user reads: lint reports, plans, outcomes and warnings.  Every text is
made for a palette, so it is the same with and without styling but for the
escape sequences.
-/

namespace ReleasePlanner.Display

open Text

/-- A text in a colour. -/
def coloured (p : Palette) (c : Colour) (text : String) : String :=
  p.paint (.plain c) text

/-- A text with an emphasis. -/
def emphasized (p : Palette) (e : Emphasis) (text : String) : String :=
  p.paint (.accent e) text

/-! ## Reports -/

/-- A violation below its commit. -/
def violationLine (p : Palette) (v : Violation) : String :=
  "\n    " ++ coloured p .red "-" ++ " " ++ v.message ++ " "
    ++ emphasized p .dim ("[" ++ v.rule.id ++ "]")

/-- The mark in front of a commit. -/
def mark (p : Palette) (v : Verdict) : String :=
  if v.accepted then
    if v.isBypass then emphasized p .dim "○" else coloured p .green "✓"
  else coloured p .red "✗"

/-- A commit with its verdict. -/
def judgement (p : Palette) (c : Judgement) : String :=
  mark p c.verdict ++ " " ++ emphasized p .dim c.label ++ " "
    ++ String.ofList (firstLine c.message.toList)
    ++ String.join (c.verdict.violations.map (violationLine p))

/-- The last line of a report. -/
def summary (p : Palette) (total rejected : Nat) : String :=
  if rejected = 0 then
    coloured p .green (decimalString total ++ " commit(s) checked, all accepted")
  else
    coloured p .red
      (decimalString total ++ " commit(s) checked, " ++ decimalString rejected ++ " rejected")

/-- A report. -/
def lintReport (p : Palette) (r : LintReport) : String :=
  String.intercalate "\n"
    (r.commits.map (judgement p) ++ [summary p r.commits.length r.rejected.length])

/-! ## Plans and outcomes -/

/-- The line of a plan that says how the version changes. -/
def versionLine (p : Palette) (plan : Plan) : String :=
  match plan.previous with
  | some previous =>
    "  Version: " ++ coloured p .red previous.text ++ " -> " ++ coloured p .green plan.version.text
      ++ " (" ++ plan.level.name ++ ")\n"
  | none => "  Version: " ++ coloured p .green plan.version.text ++ " (initial release)\n"

/-- The line of a plan that says which merge follows, nothing when none does. -/
def syncLine : Option Backmerge → String
  | some m => "  Sync:    " ++ m.source ++ " -> " ++ m.target ++ "\n"
  | none => ""

/-- A plan. -/
def plan (p : Palette) (plan : Plan) : String :=
  emphasized p .bold ("Release plan for branch '" ++ plan.branch ++ "'") ++ "\n"
    ++ versionLine p plan
    ++ "  Tag:     " ++ plan.tag ++ "\n"
    ++ "  Channel: " ++ plan.channel.getD "default" ++ "\n"
    ++ syncLine plan.sync
    ++ "\n" ++ plan.changelog

/-- The line of an outcome that says which merge was done, nothing when none was. -/
def mergedLine (p : Palette) (o : Outcome) : String :=
  match o.sync, o.plan.sync with
  | .completed, some m =>
    "\n" ++ coloured p .green "✓" ++ " Merged " ++ m.source ++ " into " ++ m.target
  | _, _ => ""

/-- An outcome. -/
def outcome (p : Palette) (o : Outcome) : String :=
  let channel := (o.plan.channel.map fun c => " on channel " ++ c).getD ""
  coloured p .green "✓" ++ " Released " ++ emphasized p .bold o.plan.tag ++ " from branch "
    ++ o.plan.branch ++ channel ++ mergedLine p o

/-! ## Messages -/

/-- A message on the state of a run. -/
def status (p : Palette) (text : String) : String :=
  coloured p .yellow "→" ++ " " ++ text

/-- A message on an error. -/
def error (p : Palette) (text : String) : String :=
  p.paint ⟨some .red, some .bold⟩ "ERROR:" ++ " " ++ text

/-- A warning with the command that mends it, each on a line. -/
def warning (p : Palette) (w : Warning) : String :=
  let command := (w.advice?.map fun c => "  Run: " ++ coloured p .cyan c ++ "\n").getD ""
  p.paint ⟨some .yellow, some .bold⟩ "⚠ WARNING:" ++ " " ++ w.message ++ "\n" ++ command

end ReleasePlanner.Display
