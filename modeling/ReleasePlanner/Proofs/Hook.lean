import ReleasePlanner.Hook.Run
import ReleasePlanner.Proofs.Step

/-!
# How hooks end

A hook that is not set does nothing.  The command of one that is set is run once
in the working tree, unless it is blank or holds a text that cannot be handed
over.  What it leaves of the files stays, whatever its exit code is.

`Hook.Ends` lists these ways, and `Hook.ends` shows that there are no others.
-/

namespace ReleasePlanner

/-- What `look` sees of the files is left as it is by every command. -/
def CommandRunner.Spares {α : Type} (runner : CommandRunner) (look : FileTree → α) : Prop :=
  ∀ command environment dir tree, look (runner command environment dir tree).2 = look tree

namespace Hook

/-- A command is run in the working tree, with the version filled in and the release in its
environment. -/
structure Runs (runner : CommandRunner) (input : HookInput) (command : String) (tree : FileTree)
    (result : CommandResult) (after : FileTree) : Prop where
  filled : Text.trim command.toList ≠ []
  starts : input.canStart (input.fillCommand (Text.trim command.toList)) = true
  ran : runner (String.ofList (input.fillCommand (Text.trim command.toList))) input.environment []
    tree = (result, after)

/-- How a hook may end, and the files it leaves. -/
inductive Ends (runner : CommandRunner) (input : HookInput) (tree : FileTree) :
    Option String → Except Error Unit → FileTree → Prop where
  | unset : Ends runner input tree none (.ok ()) tree
  | blank {command : String} :
      Text.trim command.toList = [] →
      Ends runner input tree (some command) (.error (.hook (.noCommand input.point))) tree
  | unstarted {command : String} :
      Text.trim command.toList ≠ [] →
      input.canStart (input.fillCommand (Text.trim command.toList)) = false →
      Ends runner input tree (some command) (.error (.hook (.notStarted input.point))) tree
  | worked {command : String} {result : CommandResult} {after : FileTree} :
      Runs runner input command tree result after →
      result.code = 0 →
      Ends runner input tree (some command) (.ok ()) after
  | failed {command : String} {result : CommandResult} {after : FileTree} :
      Runs runner input command tree result after →
      result.code ≠ 0 →
      Ends runner input tree (some command)
        (.error (.hook (.failed input.point result.code (Text.trimmedEnd result.stdout)
          (Text.trimmedEnd result.stderr)))) after

variable {runner : CommandRunner} {input : HookInput} {tree after : FileTree}
  {command? : Option String} {result : Except Error Unit} {e : Error}

theorem ends_run (runner : CommandRunner) (input : HookInput) (command : String)
    (tree : FileTree) :
    Ends runner input tree (some command) ((run runner [] input command).apply tree).1
      ((run runner [] input command).apply tree).2 := by
  have root : tree.isDirectory [] = true := rfl
  rw [run, Step.apply_make]
  by_cases blank : Text.trim command.toList = []
  · rw [if_pos (List.isEmpty_iff.mpr blank)]
    exact .blank blank
  · rw [if_neg (by simpa using blank)]
    simp only [root, Bool.and_true]
    cases starts : input.canStart (input.fillCommand (Text.trim command.toList)) with
    | false => exact .unstarted blank starts
    | true =>
        simp only [if_true, judge]
        split
        next worked => exact .worked ⟨blank, starts, rfl⟩ worked
        next failed => exact .failed ⟨blank, starts, rfl⟩ failed

/-- A hook ends in one of these ways. -/
theorem ends (runner : CommandRunner) (input : HookInput) (tree : FileTree)
    (command? : Option String) :
    Ends runner input tree command? ((runIfSet runner [] input command?).apply tree).1
      ((runIfSet runner [] input command?).apply tree).2 := by
  cases command? with
  | none => exact .unset
  | some command => exact ends_run runner input command tree

namespace Ends

/-- Every error of a hook is one of hooks. -/
theorem exists_hookError (ends : Ends runner input tree command? (.error e) after) :
    ∃ cause, e = .hook cause := by
  cases ends with
  | blank => exact ⟨_, rfl⟩
  | unstarted => exact ⟨_, rfl⟩
  | failed => exact ⟨_, rfl⟩

/-- What commands leave as it is is left by hooks. -/
theorem spared {α : Type} {look : FileTree → α} (spares : runner.Spares look)
    (ends : Ends runner input tree command? result after) : look after = look tree := by
  have run : ∀ {command result after}, Runs runner input command tree result after →
      look after = look tree := by
    intro command result after runs
    have spared := spares (String.ofList (input.fillCommand (Text.trim command.toList)))
      input.environment [] tree
    rwa [runs.ran] at spared
  cases ends with
  | unset => rfl
  | blank => rfl
  | unstarted => rfl
  | worked runs => exact run runs
  | failed runs => exact run runs

end Ends

end Hook

end ReleasePlanner
