import ReleasePlanner.Proofs.Workflow.Runs

/-!
# Runs that publish nothing

A run is an approach and what follows it (`runRequest_eq_approach`).  The
approach looks at everything and runs the first hook.  It stops with an error,
or with a result because there is nothing to publish, or it comes to a plan,
and only then publishing begins.

Until then nothing is changed but the count of fetches, and the files by the
command of the first hook (`approach_leaves`).  So a run that stops before
publishing leaves commits, branches, tags and everything that is recorded as
they were (`unpublished_changes_nothing`).
-/

namespace ReleasePlanner

open MemoryRepository

/-! ## The approach -/

/-- Where an approach comes to. -/
inductive Approach where
  /-- There is nothing to publish, and this is the result. -/
  | idle (result : RunResult)
  /-- The plan is to be published. -/
  | ready (prepared : Prepared) (plan : Plan) (warnings : List Warning)

variable {r s : MemoryRepository} {runner : CommandRunner} {c : Config} {request : RunRequest}
  {date : Date} {branch : String} {p : Prepared} {plan : Plan}

/-- The part of an approach that follows the preparation. -/
def approachPrepared (runner : CommandRunner) (c : Config) (request : RunRequest)
    (news : List Warning) (p : Prepared) : Step MemoryRepository Approach := do
  let warnings := news ++ preparedWarnings (Repository.idText (← get) p.head) p
  match p.plan, request.rehearsal with
  | some plan, false =>
    runHook runner c .verifyConditions plan
    return .ready p plan warnings
  | _, _ => return .idle ⟨p, none, warnings⟩

/-- The part of an approach that follows the look for news. -/
def approachFetched (runner : CommandRunner) (c : Config) (request : RunRequest) (date : Date)
    (branch : String) (news : List Warning) : Step MemoryRepository Approach := do
  if !request.rehearsal then requireCurrent branch
  let p ← Prepared.ofBranch c branch date
  approachPrepared runner c request news p

/-- What a run does before it publishes anything. -/
def approach (runner : CommandRunner) (c : Config) (request : RunRequest) (date : Date) :
    Step MemoryRepository Approach := do
  let branch ← requestedBranch request
  let _ ← Step.ofExcept (c.release.tagPattern.mapError .tag)
  let _ ← Step.ofExcept (c.release.branches.trackOf branch)
  let news ← if request.pushes then fetchNews c.release.remote else pure []
  approachFetched runner c request date branch news

theorem approachFetched_eq (runner : CommandRunner) (c : Config) (request : RunRequest)
    (date : Date) (branch : String) (news : List Warning) :
    approachFetched runner c request date branch news
      = preparing c request date branch (approachPrepared runner c request news) := rfl

theorem approach_eq (runner : CommandRunner) (c : Config) (request : RunRequest) (date : Date) :
    approach runner c request date = opening c request (approachFetched runner c request date) :=
  rfl

/-- What follows the approach: publishing, if there is a plan for it. -/
def Approach.goOn (runner : CommandRunner) (c : Config) (pushes : Bool) :
    Approach → Step MemoryRepository RunResult
  | idle result => return result
  | ready prepared plan warnings => do
    let outcome ← execute (collaborator runner c pushes) plan
    return ⟨prepared, some outcome, warnings ++ outcomeWarnings outcome⟩

theorem runPrepared_eq_approach (news : List Warning) :
    runPrepared runner c request news p
      = approachPrepared runner c request news p >>= Approach.goOn runner c request.pushes := by
  rw [runPrepared, approachPrepared, bind_assoc]
  congr 1
  funext state
  cases hplan : p.plan with
  | none => rfl
  | some plan =>
      cases hrehearsal : request.rehearsal with
      | true => rfl
      | false => simp only [publishPlan, bind_assoc, pure_bind, Approach.goOn]

theorem runFetched_eq_approach (news : List Warning) :
    runFetched runner c request date branch news
      = approachFetched runner c request date branch news
        >>= Approach.goOn runner c request.pushes := by
  have split : runPrepared runner c request news = fun p =>
      approachPrepared runner c request news p >>= Approach.goOn runner c request.pushes :=
    funext fun _ => runPrepared_eq_approach news
  rw [runFetched_eq, approachFetched_eq, preparing_bind, split]

/-- A run is its approach and what follows. -/
theorem runRequest_eq_approach (runner : CommandRunner) (c : Config) (request : RunRequest)
    (date : Date) :
    runRequest runner c request date
      = approach runner c request date >>= Approach.goOn runner c request.pushes := by
  have split : runFetched runner c request date = fun branch news =>
      approachFetched runner c request date branch news
        >>= Approach.goOn runner c request.pushes :=
    funext fun branch => funext runFetched_eq_approach
  rw [runRequest_eq, approach_eq, opening_bind, split]

/-! ## What the approach leaves -/

/-- The approach left everything alone, or it counted a fetch, or it ran the first hook after
that, and then it did not come to the result that there is nothing to publish. -/
def Approached (runner : CommandRunner) (c : Config) (request : RunRequest) (date : Date)
    (r : MemoryRepository) (result : Except Error Approach) (s : MemoryRepository) : Prop :=
  s = r ∨ s = r.withFetch request.pushes ∨
    ∃ branch p plan verdict, Due c request date r branch p plan ∧
      (runHook runner c .verifyConditions plan).apply (r.withFetch request.pushes) = (verdict, s) ∧
      ∀ known, result ≠ .ok (.idle known)

theorem approached_approachPrepared (hbranch : request.branchIn r = some branch)
    (prepared : r.prepared c branch date = .ok p)
    (current : request.rehearsal = false → r.current = some branch) (news : List Warning) :
    let ended := (approachPrepared runner c request news p).apply (r.withFetch request.pushes)
    Approached runner c request date r ended.1 ended.2 := by
  simp only
  rw [approachPrepared, Step.apply_bind, Step.apply_get]
  simp only
  split
  next plan hplan earnest =>
    have due : Due c request date r branch p plan :=
      ⟨hbranch, earnest, current earnest, prepared, hplan⟩
    rw [Step.apply_bind]
    cases hverify : (runHook runner c .verifyConditions plan).apply
        (r.withFetch request.pushes) with
    | mk verdict s =>
        refine Or.inr (Or.inr ⟨branch, p, plan, verdict, due, ?_, ?_⟩)
        · cases verdict with
          | error e => exact hverify
          | ok _ => exact hverify
        · cases verdict with
          | error e => simp
          | ok _ => simp
  next => exact Or.inr (Or.inl rfl)

theorem approached_approachFetched (hbranch : request.branchIn r = some branch)
    (news : List Warning) :
    let ended := (approachFetched runner c request date branch news).apply
      (r.withFetch request.pushes)
    Approached runner c request date r ended.1 ended.2 := by
  simp only
  rw [approachFetched_eq, preparing_apply, preparation_withFetch]
  cases h : request.preparation c date branch r with
  | error e => exact Or.inr (Or.inl rfl)
  | ok p =>
      obtain ⟨prepared, current⟩ := RunRequest.prepared_of_preparation h
      exact approached_approachPrepared hbranch prepared current news

/-- The approach changes nothing but the count of fetches, up to the first hook. -/
theorem approach_leaves (runner : CommandRunner) (c : Config) (request : RunRequest) (date : Date)
    (r : MemoryRepository) :
    let ended := (approach runner c request date).apply r
    Approached runner c request date r ended.1 ended.2 := by
  simp only
  rw [approach_eq, opening_apply]
  cases opened : request.opened c r with
  | error e => exact Or.inl rfl
  | ok branch => exact approached_approachFetched (RunRequest.branchIn_of_opened opened) _

/-! ## What the first hook leaves -/

/-- The files that the command of the first hook leaves. -/
def verifiedFiles (runner : CommandRunner) (c : Config) (plan : Plan) (command : String)
    (tree : FileTree) : FileTree :=
  let input := HookInput.ofPlan .verifyConditions plan c.release.remote
  (runner (String.ofList (input.fillCommand (Text.trim command.toList))) input.environment []
    tree).2

/-- The first hook leaves everything alone, or the files as its command left them. -/
theorem runHook_verify_leaves {verdict : Except Error Unit}
    (h : (runHook runner c .verifyConditions plan).apply r = (verdict, s)) :
    s = r ∨ ∃ command tree, c.hooks.verifyConditions = some command ∧ r.files = some tree ∧
      s = r.withFiles (verifiedFiles runner c plan command tree) := by
  cases found : r.files with
  | none =>
      rw [runHook, onWorkTree_apply_of_none _ found] at h
      cases h
      exact Or.inl rfl
  | some tree =>
      have same : r.withFiles tree = r := by rw [withFiles, ← found]
      have ends := ends_hookEnd runner c .verifyConditions plan tree
      rw [runHook_apply found] at h
      obtain ⟨ended, rfl⟩ := Prod.mk.inj h
      generalize hset : c.hooks.at? .verifyConditions = command? at ends
      generalize (hookEnd runner c .verifyConditions plan tree).2 = after at ends ⊢
      rw [ended] at ends
      cases ends with
      | unset => exact Or.inl same
      | blank => exact Or.inl same
      | unstarted => exact Or.inl same
      | worked runs => exact Or.inr ⟨_, tree, hset, rfl, by rw [verifiedFiles, runs.ran]⟩
      | failed runs => exact Or.inr ⟨_, tree, hset, rfl, by rw [verifiedFiles, runs.ran]⟩

/-! ## Runs that stop before publishing -/

/-- A run that has a plan to publish has an outcome, or fails. -/
theorem Approach.goOn_ready {warnings : List Warning} {known : RunResult} {t : MemoryRepository}
    (h : ((ready p plan warnings).goOn runner c request.pushes).apply s = (.ok known, t)) :
    known.outcome ≠ none := by
  rw [goOn, Step.apply_bind] at h
  split at h
  · cases h
    exact Option.some_ne_none _
  · cases h

/-- A run that stops before publishing ends as its approach ended. -/
theorem ends_as_approach {result : Except Error RunResult}
    (ran : (runRequest runner c request date).apply r = (result, s))
    (unpublished : (∃ known, result = .ok known ∧ known.outcome = none) ∨
      ∃ e, ((approach runner c request date).apply r).1 = .error e) :
    (∃ e, (approach runner c request date).apply r = (.error e, s) ∧ result = .error e) ∨
      ∃ known, (approach runner c request date).apply r = (.ok (.idle known), s) := by
  rw [runRequest_eq_approach, Step.apply_bind] at ran
  cases happroach : (approach runner c request date).apply r with
  | mk came middle =>
      rw [happroach] at ran unpublished
      cases came with
      | error e =>
          cases ran
          exact Or.inl ⟨e, rfl, rfl⟩
      | ok came =>
          rcases unpublished with ⟨known, rfl, hnone⟩ | ⟨e, failed⟩
          · cases came with
            | idle result =>
                cases ran
                exact Or.inr ⟨known, rfl⟩
            | ready prepared plan warnings => exact absurd hnone (Approach.goOn_ready ran)
          · cases failed

/-- A run that has nothing to publish, or fails before it publishes, changes nothing but the count
of fetches and, when it fails, the files by the command of the first hook. -/
theorem unpublished_changes_nothing {result : Except Error RunResult}
    (ran : (runRequest runner c request date).apply r = (result, s))
    (unpublished : (∃ known, result = .ok known ∧ known.outcome = none) ∨
      ∃ e, ((approach runner c request date).apply r).1 = .error e) :
    ∃ fetches files, s = { r with fetches := fetches, files := files } ∧
      (fetches = r.fetches ∨ request.pushes = true ∧ fetches = r.fetches + 1) ∧
      (files = r.files ∨ ∃ e branch p plan command tree,
        result = .error e ∧ Due c request date r branch p plan ∧
        c.hooks.verifyConditions = some command ∧ r.files = some tree ∧
        files = some (verifiedFiles runner c plan command tree)) := by
  have leaves := approach_leaves runner c request date r
  have ends := ends_as_approach ran unpublished
  have fetched : ∀ files, ∃ fetches,
      { r.withFetch request.pushes with files := files }
        = { r with fetches := fetches, files := files } ∧
      (fetches = r.fetches ∨ request.pushes = true ∧ fetches = r.fetches + 1) := by
    intro files
    cases request.pushes with
    | false => exact ⟨r.fetches, rfl, Or.inl rfl⟩
    | true => exact ⟨r.fetches + 1, rfl, Or.inr ⟨rfl, rfl⟩⟩
  have files : (r.withFetch request.pushes).files = r.files := by
    cases request.pushes with
    | false => rfl
    | true => rfl
  have hs : ((approach runner c request date).apply r).2 = s := by
    rcases ends with ⟨e, h, -⟩ | ⟨known, h⟩
    all_goals rw [h]
  simp only [hs] at leaves
  rcases leaves with rfl | rfl | ⟨branch, p, plan, verdict, due, hverify, busy⟩
  · exact ⟨s.fetches, s.files, rfl, Or.inl rfl, Or.inl rfl⟩
  · obtain ⟨fetches, heq, hfetches⟩ := fetched r.files
    refine ⟨fetches, r.files, ?_, hfetches, Or.inl rfl⟩
    rw [← heq, ← files]
  · -- The first hook was run, so the run stopped because it failed.
    obtain ⟨e, -, rfl⟩ : ∃ e, (approach runner c request date).apply r = (.error e, s) ∧
        result = .error e := by
      rcases ends with failed | ⟨known, h⟩
      · exact failed
      · rw [h] at busy
        exact absurd rfl (busy known)
    rcases runHook_verify_leaves hverify with rfl | ⟨command, tree, hset, found, rfl⟩
    · obtain ⟨fetches, heq, hfetches⟩ := fetched r.files
      refine ⟨fetches, r.files, ?_, hfetches, Or.inl rfl⟩
      rw [← heq, ← files]
    · rw [files] at found
      obtain ⟨fetches, heq, hfetches⟩ :=
        fetched (some (verifiedFiles runner c plan command tree))
      exact ⟨fetches, _, heq, hfetches,
        Or.inr ⟨e, branch, p, plan, command, tree, rfl, due, hset, found, rfl⟩⟩

/-- Leaves a note and fails. -/
def refusingRunner : CommandRunner :=
  fun _ _ _ tree => (⟨1, "", "not today"⟩, tree.put ["note"] (.file "not today"))

/-- A configuration with a command for the first hook. -/
def Config.guarded : Config :=
  { Config.standard with hooks := { Config.standard.hooks with verifyConditions := some "check" } }

/-- A first hook that fails leaves its note, and of everything else only the fetch is counted. -/
theorem refused_changes_nothing :
    ∃ e fetches, (runRequest refusingRunner .guarded ⟨none, false, true⟩ ⟨2026, 1, 9⟩).apply
        (unreleased false)
      = (.error e, { unreleased false with
          fetches := fetches
          files := some (FileTree.empty.put ["note"] (.file "not today")) }) := by
  have known : (((approach refusingRunner .guarded ⟨none, false, true⟩ ⟨2026, 1, 9⟩).apply
      (unreleased false)).1.toOption.isNone,
      ((runRequest refusingRunner .guarded ⟨none, false, true⟩ ⟨2026, 1, 9⟩).apply
        (unreleased false)).1.toOption.isNone,
      ((runRequest refusingRunner .guarded ⟨none, false, true⟩ ⟨2026, 1, 9⟩).apply
        (unreleased false)).2.files)
      = (true, true, some (FileTree.empty.put ["note"] (.file "not today"))) := by
    decide +kernel
  simp only [Prod.mk.injEq] at known
  obtain ⟨stopped, failed, hfiles⟩ := known
  cases happroach : ((approach refusingRunner .guarded ⟨none, false, true⟩ ⟨2026, 1, 9⟩).apply
      (unreleased false)).1 with
  | ok came =>
      rw [happroach] at stopped
      cases stopped
  | error e =>
      cases ran : (runRequest refusingRunner .guarded ⟨none, false, true⟩ ⟨2026, 1, 9⟩).apply
          (unreleased false) with
      | mk result s =>
          rw [ran] at failed hfiles
          cases result with
          | ok known => cases failed
          | error e' =>
              obtain ⟨fetches, files, rfl, -, -⟩ :=
                unpublished_changes_nothing ran (Or.inr ⟨e, happroach⟩)
              cases hfiles
              exact ⟨e', fetches, rfl⟩

end ReleasePlanner
