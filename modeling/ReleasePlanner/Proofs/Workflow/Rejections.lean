import ReleasePlanner.Proofs.Release.Notes
import ReleasePlanner.Proofs.Repository.Ranges
import ReleasePlanner.Proofs.Workflow.Publishing

/-!
# Rejected commits decide nothing

What a preparation decides and plans is a function of two things: the latest
releases of the branch, and the messages of the accepted commits since the last
one (`Standing`, `prepared_eq_conclude`).  Rejected commits are part of neither.

So two repositories that stand alike are prepared alike, and a branch stands as
before when rejected commits are put anywhere between the new ones
(`rejected_without_influence`).
-/

namespace ReleasePlanner

open MemoryRepository

variable {r s : MemoryRepository} {c : Config} {pattern : TagPattern} {first : Version}
  {bypass : Pattern} {linter : Linter} {branch message : String} {head id : CommitId} {date : Date}

/-! ## Accepted messages -/

/-- Whether a commit with this message is accepted. -/
def Linter.accepts (linter : Linter) (message : String) : Bool :=
  (linter.judge (Message.parse message)).accepted

/-- The accepted commits are what the accepted messages say. -/
theorem Linter.accepted_lint_eq (linter : Linter) (messages : List (String × String)) :
    (linter.lint messages).accepted
      = ((messages.map Prod.snd).filter linter.accepts).map Message.parse := by
  have parsed : (linter.lint messages).commits.map Judgement.parsed
      = (messages.map Prod.snd).map Message.parse := by
    rw [List.map_map]
    exact List.map_map
  rw [accepted_lint, parsed, List.filter_map]
  rfl

theorem map_snd_labelled (r : MemoryRepository) (commits : List LoggedCommit) :
    (labelled r commits).map Prod.snd = commits.map LoggedCommit.message :=
  List.map_map

/-! ## Where a branch stands -/

/-- What a branch is judged by. -/
structure Standing where
  /-- The latest releases of the branch. -/
  history : History
  /-- The messages of the accepted commits since the last release, oldest first. -/
  accepted : List String

/-- Where a branch stands, if it is a release branch that is there. -/
def MemoryRepository.standing? (r : MemoryRepository) (c : Config) (branch : String) :
    Option Standing := do
  let pattern ← c.release.tagPattern.toOption
  let track ← (c.release.branches.trackOf branch).toOption
  let head ← r.head? branch
  let history := History.ofTags pattern c.release.branches.prereleaseId (r.releaseTags pattern head)
  let since? := ((history.last? track).map pattern.format).bind r.tag?
  let linter ← (Linter.ofPolicy c.lint).toOption
  return ⟨history, ((r.between since? head).map LoggedCommit.message).filter linter.accepts⟩

/-- The standing with more accepted messages. -/
def Standing.addAccepted (standing : Standing) (messages : List String) : Standing :=
  { standing with accepted := standing.accepted ++ messages }

/-- What is decided and planned for a branch that stands so. -/
def Standing.conclude (standing : Standing) (p : ReleasePolicy) (branch : String) (date : Date) :
    Except Error (Decision × Option Plan) := do
  let decision := Decision.ofCommits p (standing.accepted.map Message.parse)
  let plan ← p.plan branch decision standing.history date
  return (decision, plan)

/-- What a preparation comes to. -/
def Prepared.conclusion (p : Prepared) : Decision × Option Plan :=
  (p.decision, p.plan)

/-! ## The standing decides -/

/-- What is concluded about a branch is a function of where it stands. -/
theorem prepared_eq_conclude (promises : c.Promises pattern first bypass)
    (lenient : c.release.blockOnRejected = false) (r : MemoryRepository) (branch : String)
    (date : Date) :
    (r.prepared c branch date).map Prepared.conclusion
      = match c.release.branches.trackOf branch, r.standing? c branch with
        | .error e, _ => .error e
        | .ok _, none => .error (.branch (.missing branch))
        | .ok _, some standing => standing.conclude c.release branch date := by
  rw [MemoryRepository.prepared, standing?]
  cases htrack : c.release.branches.trackOf branch with
  | error e =>
      simp only [promises.pattern_ok, Result.mapError_ok, bind, Except.bind]
      rfl
  | ok track =>
      simp only [promises.pattern_ok, promises.linter_ok, Result.mapError_ok, bind, Except.bind,
        Except.toOption, Option.bind]
      rw [MemoryRepository.head]
      cases r.head? branch with
      | none => rfl
      | some head =>
          simp only [planUnlessBlocked_of_lenient lenient, Linter.accepted_lint_eq,
            map_snd_labelled, Standing.conclude, pure, bind, Except.bind]
          generalize c.release.plan branch _ _ date = plan
          cases plan with
          | error e => rfl
          | ok plan => rfl

/-- Branches that stand alike are prepared alike. -/
theorem prepared_of_standing_eq (valid : c.validate = .ok ())
    (lenient : c.release.blockOnRejected = false)
    (alike : r.standing? c branch = s.standing? c branch) (date : Date) :
    (r.prepared c branch date).map Prepared.conclusion
      = (s.prepared c branch date).map Prepared.conclusion := by
  obtain ⟨pattern, first, bypass, promises⟩ := Config.exists_promises valid
  rw [prepared_eq_conclude promises lenient, prepared_eq_conclude promises lenient, alike]

/-! ## One more commit -/

/-- A new commit has no tag, so the tags that count are the same. -/
theorem releaseTags_addCommit (sound : r.Sound) (hhead : r.head? branch = some head) :
    (r.addCommit branch message).releaseTags pattern r.nextId = r.releaseTags pattern head := by
  refine List.filter_congr fun name _ => ?_
  congr 1
  show (r.tag? name).any _ = (r.tag? name).any _
  cases there : r.tag? name with
  | none => rfl
  | some id => exact isAncestor_addCommit sound hhead (sound.tag_held name id there)

/-- A new commit is added to the accepted ones if it is accepted, and changes nothing else. -/
theorem standing?_addCommit (sound : r.Sound) (hhead : r.head? branch = some head)
    (hlinter : Linter.ofPolicy c.lint = .ok linter) (message : String) :
    (r.addCommit branch message).standing? c branch
      = (r.standing? c branch).map
          fun standing => standing.addAccepted ([message].filter linter.accepts) := by
  have moved : (r.addCommit branch message).head? branch = some r.nextId :=
    (head?_addCommit r branch message branch).trans (if_pos rfl)
  have same : (r.addCommit branch message).tag? = r.tag? := rfl
  rw [standing?, standing?, hhead, moved, hlinter]
  cases c.release.tagPattern with
  | error e => rfl
  | ok pattern =>
      cases c.release.branches.trackOf branch with
      | error e => rfl
      | ok track =>
          simp only [Except.toOption, Option.bind_eq_bind, Option.bind_some,
            releaseTags_addCommit sound hhead, same,
            between_addCommit sound hhead sound.since_held]
          rw [List.map_append, List.filter_append]
          rfl

/-! ## Any number of commits -/

/-- The repository with some commits on top of a branch. -/
def MemoryRepository.commitAll (r : MemoryRepository) (branch : String) (messages : List String) :
    MemoryRepository :=
  messages.foldl (fun s message => s.addCommit branch message) r

/-- Of new commits only the accepted ones change where a branch stands. -/
theorem standing?_commitAll (sound : r.Sound) (hhead : r.head? branch = some head)
    (hlinter : Linter.ofPolicy c.lint = .ok linter) (messages : List String) :
    (r.commitAll branch messages).standing? c branch
      = (r.standing? c branch).map
          fun standing => standing.addAccepted (messages.filter linter.accepts) := by
  induction messages generalizing r head with
  | nil =>
      cases standing : r.standing? c branch with
      | none => exact standing
      | some known => simp [commitAll, standing, Standing.addAccepted]
  | cons message messages ih =>
      have moved : (r.addCommit branch message).head? branch = some r.nextId :=
        (head?_addCommit r branch message branch).trans (if_pos rfl)
      rw [commitAll, List.foldl_cons, ← commitAll, ih sound.addCommit moved,
        standing?_addCommit sound hhead hlinter, Option.map_map]
      congr 1
      funext standing
      cases accepted : linter.accepts message with
      | true => simp [Standing.addAccepted, accepted]
      | false => simp [Standing.addAccepted, accepted]

/-- Rejected commits have no influence where they cannot stop a release.  Branches with the same
latest releases and the same accepted messages since then come to the same decision and the same
plan, or fail in the same way.  So it does not matter how many rejected commits stand between the
new ones of a branch, and where. -/
theorem rejected_without_influence (valid : c.validate = .ok ())
    (lenient : c.release.blockOnRejected = false) (branch : String) (date : Date) :
    (∀ r s : MemoryRepository, r.standing? c branch = s.standing? c branch →
        (((Prepared.ofBranch c branch date).apply r).1.map Prepared.conclusion)
          = (((Prepared.ofBranch c branch date).apply s).1.map Prepared.conclusion)) ∧
      ∃ linter, Linter.ofPolicy c.lint = .ok linter ∧
        ∀ (r : MemoryRepository) (head : CommitId) (messages others : List String),
          r.Sound → r.head? branch = some head →
          messages.filter linter.accepts = others.filter linter.accepts →
          ((Prepared.ofBranch c branch date).apply (r.commitAll branch messages)).1.map
              Prepared.conclusion
            = ((Prepared.ofBranch c branch date).apply (r.commitAll branch others)).1.map
              Prepared.conclusion := by
  obtain ⟨pattern, first, bypass, promises⟩ := Config.exists_promises valid
  have alike : ∀ r s : MemoryRepository, r.standing? c branch = s.standing? c branch →
      (((Prepared.ofBranch c branch date).apply r).1.map Prepared.conclusion)
        = (((Prepared.ofBranch c branch date).apply s).1.map Prepared.conclusion) := by
    intro r s standing
    rw [ofBranch_apply, ofBranch_apply]
    exact prepared_of_standing_eq valid lenient standing date
  refine ⟨alike, ⟨c.lint, bypass⟩, promises.linter_ok, ?_⟩
  intro r head messages others sound hhead same
  refine alike _ _ ?_
  rw [standing?_commitAll sound hhead promises.linter_ok,
    standing?_commitAll sound hhead promises.linter_ok, same]

/-- A feature on top of the release branch. -/
def newFeature : List String :=
  ["feat: Add filters."]

/-- The same feature among commits that are rejected, one of which claims to break something. -/
def newFeatureAmongRejected : List String :=
  ["oops typo", "feat: Add filters.", "feat!: drop the old api"]

/-- A rejected commit does not make a major release of a minor one. -/
theorem rejected_breaking_ignored :
    ∃ plan, ((((Prepared.ofBranch .standard "release" ⟨2026, 1, 9⟩).apply
          ((releasedOnce "v1.0.0").commitAll "release" newFeatureAmongRejected)).1.map
          Prepared.conclusion).toOption.map Prod.snd) = some (some plan) ∧
      plan.version = .stable 1 1 0 := by
  have known : ((((Prepared.ofBranch .standard "release" ⟨2026, 1, 9⟩).apply
      ((releasedOnce "v1.0.0").commitAll "release" newFeature)).1.map
      Prepared.conclusion).toOption.bind Prod.snd).map Plan.version = some (.stable 1 1 0) := by
    decide +kernel
  have filtered : ((Linter.ofPolicy LintPolicy.standard).toOption.map fun linter =>
      (newFeature.filter linter.accepts, newFeatureAmongRejected.filter linter.accepts))
        = some (newFeature, newFeature) := by
    decide +kernel
  obtain ⟨-, linter, hlinter, ignored⟩ :=
    rejected_without_influence Config.validate_standard rfl "release" ⟨2026, 1, 9⟩
  have hpolicy : Linter.ofPolicy LintPolicy.standard = .ok linter := hlinter
  rw [hpolicy] at filtered
  simp only [Except.toOption, Option.map_some, Option.some.injEq, Prod.mk.injEq] at filtered
  have alike := ignored (releasedOnce "v1.0.0") 2 newFeatureAmongRejected newFeature
    (sound_releasedOnce "v1.0.0") rfl (filtered.2.trans filtered.1.symm)
  obtain ⟨plan, hplan, hversion⟩ := Option.map_eq_some_iff.mp known
  obtain ⟨conclusion, hconclusion, hsnd⟩ := Option.bind_eq_some_iff.mp hplan
  refine ⟨plan, ?_, hversion⟩
  rw [alike, hconclusion, Option.map_some, hsnd]

end ReleasePlanner
