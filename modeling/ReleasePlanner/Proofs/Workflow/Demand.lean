import ReleasePlanner.Proofs.Release.OwnLevel
import ReleasePlanner.Proofs.Repository.Ranges
import ReleasePlanner.Proofs.Version.Levels
import ReleasePlanner.Proofs.Workflow.Footprint

/-!
# What ranges of commits ask for

The level of a release is what the accepted commits since the last release ask
for together (`Prepared.Describes.level_eq`).  What a range asks for
(`MemoryRepository.demand`) does not change when the repository grows, and where
a range is cut in two it is the greater of what the parts ask for
(`demand_cut`).  A commit that asks for nothing adds nothing
(`Crowned.demand_eq`), and when nothing is configured release commits are such
commits (`quiet_standard`).
-/

namespace ReleasePlanner

open MemoryRepository

variable {r s : MemoryRepository} {c : Config} {p : ReleasePolicy} {linter : Linter}
  {a b d id head : CommitId} {since? : Option CommitId}

/-! ## What single commits ask for -/

/-- The level that a commit with this message asks for, which is none where it is rejected. -/
def askedBy (p : ReleasePolicy) (linter : Linter) (message : String) : Level :=
  let parsed := Message.parse message
  if (linter.judge parsed).accepted then p.levelOf parsed else .none

/-- What commits add up to is what they ask for one by one. -/
theorem level_ofCommits_lint (p : ReleasePolicy) (linter : Linter)
    (messages : List (String × String)) :
    (Decision.ofCommits p (linter.lint messages).accepted).level
      = Level.greatest (messages.map fun m => askedBy p linter m.2) := by
  have parsed : (linter.lint messages).commits.map Judgement.parsed
      = messages.map fun m => Message.parse m.2 := List.map_map
  rw [Decision.ofCommits, Linter.accepted_lint, Level.greatest_filter, parsed, List.map_map]
  rfl

/-- A commit that asks for nothing when it is accepted asks for nothing. -/
theorem askedBy_eq_none {message : String} (h : p.levelOf (Message.parse message) = .none) :
    askedBy p linter message = .none := by
  simp only [askedBy, h]
  split <;> rfl

/-! ## What ranges ask for -/

namespace MemoryRepository

/-- The level that the commits of a range ask for together. -/
def demand (r : MemoryRepository) (p : ReleasePolicy) (linter : Linter)
    (since? : Option CommitId) (head : CommitId) : Level :=
  Level.greatest ((r.between since? head).map fun c => askedBy p linter c.message)

theorem demand_self (r : MemoryRepository) (p : ReleasePolicy) (linter : Linter) (id : CommitId) :
    r.demand p linter (some id) id = .none := by
  rw [demand, between_self]
  rfl

/-- What old commits ask for stays the same. -/
theorem Grows.demand_eq (grows : Grows r s) (hsince : ∀ id ∈ since?, r.Holds id)
    (held : r.Holds head) : s.demand p linter since? head = r.demand p linter since? head := by
  rw [demand, demand, grows.between_eq hsince held]

/-- A range asks for the greater of what its two parts ask for. -/
theorem demand_cut (sound : r.Sound) (held : r.Holds d) (hdb : Reaches r.parents d b)
    (hba : Reaches r.parents b a) :
    r.demand p linter (some a) d
      = (r.demand p linter (some a) b).join (r.demand p linter (some b) d) := by
  have cut := (perm_between_some sound.rooted held hdb hba).map fun c =>
    askedBy p linter c.message
  rw [demand, Level.greatest_perm cut, List.map_append, Level.greatest_append]
  rfl

end MemoryRepository

/-- A release commit that asks for nothing adds nothing to what its branch asks for. -/
theorem Crowned.demand_eq {branch tag message : String} (sound : r.Sound) (after : s.Sound)
    (grows : Grows r s) (crowned : Crowned r s branch tag message id)
    (hhead : r.head? branch = some head) (hreach : Reaches r.parents head a)
    (silent : askedBy p linter message = .none) :
    s.demand p linter (some a) id = r.demand p linter (some a) head := by
  have held := sound.head_held branch head hhead
  have only : s.parents id = [head] := by
    rw [parents, crowned.commit_eq, hhead]
    rfl
  have found : s.info? id = some ⟨id, message, author⟩ := by
    rw [info?, crowned.commit_eq]
    rfl
  have hsince : ∀ first ∈ some a, r.Holds first := by
    rintro _ ⟨⟩
    exact sound.holds_of_reaches held hreach
  have longer := (perm_between_child after.rooted (after.head_held branch id crowned.head_eq) only
    (grows.reaches hreach) found).map fun c => askedBy p linter c.message
  rw [demand, Level.greatest_perm longer, List.map_cons, Level.greatest_cons, silent, ← demand,
    grows.demand_eq hsince held]
  exact Level.join_eq_right (Nat.zero_le _)

/-! ## What a branch asks for -/

theorem level_ofCommits_between (r : MemoryRepository) (p : ReleasePolicy) (linter : Linter)
    (since? : Option CommitId) (head : CommitId) :
    (Decision.ofCommits p (linter.lint (labelled r (r.between since? head))).accepted).level
      = r.demand p linter since? head := by
  rw [level_ofCommits_lint, demand, labelled, List.map_map]
  rfl

/-- The level of a release is what the commits since the last one ask for. -/
theorem Prepared.Describes.level_eq {prepared : Prepared} {branch : String} {date : Date}
    {pattern : TagPattern} (known : prepared.Describes r c branch date pattern linter) :
    prepared.decision.level
      = r.demand c.release linter (prepared.lastTag.bind r.tag?) prepared.head := by
  rw [known.decision_eq, known.report_eq, level_ofCommits_between]

/-- Release commits of the configuration ask for nothing. -/
def Config.Quiet (c : Config) (linter : Linter) : Prop :=
  ∀ request date r branch prepared plan, Due c request date r branch prepared plan →
    askedBy c.release linter plan.message = .none

/-- When nothing is configured, release commits ask for nothing. -/
theorem quiet_standard (linter : Linter) : Config.standard.Quiet linter := by
  intro request date r branch prepared plan due
  obtain ⟨pattern, first, bypass, promises⟩ := Config.exists_promises Config.validate_standard
  have known := Prepared.describes promises due.prepared_ok
  have planned := known.planned due.plan_eq
  have wellNamed := (known.onTrack promises due.plan_eq).wellNamed promises.identifier_ok
  have quoted : ∀ parsed ∈ prepared.report.accepted, parsed.OneLine := by
    intro parsed hparsed
    rw [known.report_eq, Linter.mem_accepted_iff] at hparsed
    obtain ⟨judgement, hjudgement, rfl⟩ := List.mem_map.mp hparsed.1
    obtain ⟨message, -, rfl⟩ := List.mem_map.mp hjudgement
    exact Message.oneLine_parse message.2
  have hmessage : plan.message = Config.standard.release.commitMessage plan.version
      (Changelog.render prepared.decision.notes plan.version date) := by
    rw [planned.plan_eq]
    rfl
  rw [hmessage, known.decision_eq]
  exact askedBy_eq_none (ReleasePolicy.levelOf_commitMessage wellNamed quoted date)

end ReleasePlanner
