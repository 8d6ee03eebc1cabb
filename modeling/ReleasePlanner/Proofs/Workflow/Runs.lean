import ReleasePlanner.Proofs.Workflow.Publishing
import ReleasePlanner.Workflow.Run

/-!
# How a run ends

`Running` lists the ways in which a run on a repository in memory may end, with
the result and the repository that is left, and `running_runRequest` shows that
there are no other ways.  Up to publishing a run changes nothing but the count
of fetches and what the first hook does to the files.

A run is taken apart at two places.  It opens with the branch that it is about
and a look for news (`opening_apply`), and then it is prepared on that branch
(`preparing_apply`).
-/

namespace ReleasePlanner

open MemoryRepository

variable {r s : MemoryRepository} {runner : CommandRunner} {c : Config} {request : RunRequest}
  {date : Date} {branch : String} {p : Prepared} {plan : Plan} {e : Error}

/-! ## The parts of a run -/

/-- The branch that a run is about, if it is known. -/
def RunRequest.branchIn (request : RunRequest) (r : MemoryRepository) : Option String :=
  request.branch.or r.current

/-- What the user is told about the fetch. -/
def fetchWarnings (c : Config) (r : MemoryRepository) (wanted : Bool) : List Warning :=
  if wanted && r.fetchesFail then
    [.fetchFailed c.release.remote (Error.remote (.unreachable c.release.remote)).message]
  else []

theorem fetchNews_apply (remote : String) :
    (fetchNews remote).apply r
      = (.ok (if r.fetchesFail then
          [.fetchFailed remote (Error.remote (.unreachable remote)).message] else []),
        r.withFetch true) := by
  rw [fetchNews, Step.apply_bind, Step.apply_attempt, apply_fetch]
  cases r.fetchesFail with
  | false => rfl
  | true => rfl

/-- A run looks for news first, if it is to push. -/
theorem news_apply {α : Type} (c : Config) (r : MemoryRepository) (wanted : Bool)
    (rest : List Warning → Step MemoryRepository α) :
    (if wanted then do
        let news ← fetchNews c.release.remote
        rest news
      else do
        let news ← pure []
        rest news).apply r
      = (rest (fetchWarnings c r wanted)).apply (r.withFetch wanted) := by
  cases wanted with
  | false => rfl
  | true =>
      rw [if_pos rfl, Step.apply_bind, fetchNews_apply]
      rfl

/-- What the user is told about the preparation. -/
def runWarnings (c : Config) (r : MemoryRepository) (request : RunRequest) (p : Prepared) :
    List Warning :=
  fetchWarnings c r request.pushes ++ preparedWarnings (idText p.head) p

/-- The plan of a run that is to be published: the run is no rehearsal, the branch is checked out
and there is something to release. -/
structure Due (c : Config) (request : RunRequest) (date : Date) (r : MemoryRepository)
    (branch : String) (p : Prepared) (plan : Plan) : Prop where
  branch_eq : request.branchIn r = some branch
  earnest : request.rehearsal = false
  current_eq : r.current = some branch
  prepared_ok : r.prepared c branch date = .ok p
  plan_eq : p.plan = some plan

theorem Due.eq_branch {other : String} (due : Due c request date r branch p plan)
    (hbranch : request.branchIn r = some other) : branch = other :=
  Option.some.inj (due.branch_eq.symm.trans hbranch)

/-- How a run may end. -/
inductive Running (runner : CommandRunner) (c : Config) (request : RunRequest) (date : Date)
    (r : MemoryRepository) : Except Error RunResult → MemoryRepository → Prop where
  | undecided :
      request.branchIn r = none →
      Running runner c request date r (.error (.branch .noCurrent)) r
  | unconfigured {e : TagError} :
      c.release.tagPattern = .error e →
      Running runner c request date r (.error (.tag e)) r
  | offTrack {branch : String} {e : Error} :
      request.branchIn r = some branch →
      c.release.branches.trackOf branch = .error e →
      Running runner c request date r (.error e) r
  | detached :
      request.rehearsal = false →
      r.current = none →
      Running runner c request date r (.error (.branch .noCurrent)) (r.withFetch request.pushes)
  | elsewhere {branch current : String} :
      request.branchIn r = some branch →
      request.rehearsal = false →
      r.current = some current →
      current ≠ branch →
      Running runner c request date r (.error (.branch (.notCheckedOut branch current)))
        (r.withFetch request.pushes)
  | unprepared {branch : String} {e : Error} :
      request.branchIn r = some branch →
      r.prepared c branch date = .error e →
      Running runner c request date r (.error e) (r.withFetch request.pushes)
  | idle {branch : String} {p : Prepared} :
      request.branchIn r = some branch →
      r.prepared c branch date = .ok p →
      request.rehearsal = true ∨ p.plan = none →
      Running runner c request date r (.ok ⟨p, none, runWarnings c r request p⟩)
        (r.withFetch request.pushes)
  | unverified {branch : String} {p : Prepared} {plan : Plan} {e : Error} {s : MemoryRepository} :
      Due c request date r branch p plan →
      (runHook runner c .verifyConditions plan).apply (r.withFetch request.pushes)
        = (.error e, s) →
      Running runner c request date r (.error e) s
  | unpublished {branch : String} {p : Prepared} {plan : Plan} {e : Error}
      {verified s : MemoryRepository} :
      Due c request date r branch p plan →
      (runHook runner c .verifyConditions plan).apply (r.withFetch request.pushes)
        = (.ok (), verified) →
      Publishing runner c request.pushes plan verified (.error e) s →
      Running runner c request date r (.error e) s
  | released {branch : String} {p : Prepared} {plan : Plan} {sync : MergeStatus}
      {verified s t : MemoryRepository} :
      Due c request date r branch p plan →
      (runHook runner c .verifyConditions plan).apply (r.withFetch request.pushes)
        = (.ok (), verified) →
      Publishing runner c request.pushes plan verified (.ok ()) s →
      (mergeAfter (collaborator runner c request.pushes) plan.sync).apply s = (.ok sync, t) →
      Running runner c request date r
        (.ok ⟨p, some ⟨plan, sync⟩,
          runWarnings c r request p ++ outcomeWarnings ⟨plan, sync⟩⟩) t

theorem current_withFetch (wanted : Bool) : (r.withFetch wanted).current = r.current := by
  cases wanted with
  | false => rfl
  | true => rfl

theorem heads_withFetch (wanted : Bool) : (r.withFetch wanted).heads = r.heads := by
  cases wanted with
  | false => rfl
  | true => rfl

/-- The merge after a release does not fail.  That it did not work is part of the result. -/
theorem mergeAfter_apply (collaborator : Collaborator MemoryRepository) (m : Option Backmerge)
    (s : MemoryRepository) :
    ∃ sync t, (mergeAfter collaborator m).apply s = (.ok sync, t) := by
  cases m with
  | none => exact ⟨.notRequired, s, rfl⟩
  | some m =>
      rw [mergeAfter, Step.apply_bind, Step.apply_attempt]
      simp only
      split
      · exact ⟨.completed, _, rfl⟩
      · exact ⟨.failed _, _, rfl⟩

/-- The part of a run that follows the preparation. -/
def runPrepared (runner : CommandRunner) (c : Config) (request : RunRequest)
    (news : List Warning) (p : Prepared) : Step MemoryRepository RunResult := do
  let warnings := news ++ preparedWarnings (Repository.idText (← get) p.head) p
  match p.plan, request.rehearsal with
  | some plan, false =>
    let outcome ← publishPlan runner c request.pushes plan
    return ⟨p, some outcome, warnings ++ outcomeWarnings outcome⟩
  | _, _ => return ⟨p, none, warnings⟩

/-- The part of a run that follows the look for news. -/
def runFetched (runner : CommandRunner) (c : Config) (request : RunRequest) (date : Date)
    (branch : String) (news : List Warning) : Step MemoryRepository RunResult := do
  if !request.rehearsal then requireCurrent branch
  let p ← Prepared.ofBranch c branch date
  runPrepared runner c request news p

/-- How a run prepares: only a rehearsal may be about a branch that is not checked out. -/
def preparing {α : Type} (c : Config) (request : RunRequest) (date : Date) (branch : String)
    (rest : Prepared → Step MemoryRepository α) : Step MemoryRepository α := do
  if !request.rehearsal then requireCurrent branch
  let p ← Prepared.ofBranch c branch date
  rest p

theorem preparing_bind {α β : Type} (c : Config) (request : RunRequest) (date : Date)
    (branch : String) (rest : Prepared → Step MemoryRepository α)
    (f : α → Step MemoryRepository β) :
    preparing c request date branch rest >>= f
      = preparing c request date branch fun p => rest p >>= f := by
  rw [preparing, preparing]
  split
  all_goals simp only [bind_assoc]

theorem runFetched_eq (runner : CommandRunner) (c : Config) (request : RunRequest) (date : Date)
    (branch : String) (news : List Warning) :
    runFetched runner c request date branch news
      = preparing c request date branch (runPrepared runner c request news) := rfl

/-- What a run prepares, or why it does not. -/
def RunRequest.preparation (c : Config) (request : RunRequest) (date : Date) (branch : String)
    (r : MemoryRepository) : Except Error Prepared :=
  match request.rehearsal, r.current with
  | true, _ => r.prepared c branch date
  | false, none => .error (.branch .noCurrent)
  | false, some current =>
    if current = branch then r.prepared c branch date
    else .error (.branch (.notCheckedOut branch current))

/-- How a run opens: it looks for news once it knows what branch it is about. -/
def opening {α : Type} (c : Config) (request : RunRequest)
    (rest : String → List Warning → Step MemoryRepository α) : Step MemoryRepository α := do
  let branch ← requestedBranch request
  let _ ← Step.ofExcept (c.release.tagPattern.mapError .tag)
  let _ ← Step.ofExcept (c.release.branches.trackOf branch)
  let news ← if request.pushes then fetchNews c.release.remote else pure []
  rest branch news

theorem opening_bind {α β : Type} (c : Config) (request : RunRequest)
    (rest : String → List Warning → Step MemoryRepository α) (f : α → Step MemoryRepository β) :
    opening c request rest >>= f = opening c request fun branch news => rest branch news >>= f := by
  simp only [opening, bind_assoc]
  congr
  funext branch
  congr
  funext _
  congr
  funext _
  split
  all_goals simp only [bind_assoc]

theorem runRequest_eq (runner : CommandRunner) (c : Config) (request : RunRequest) (date : Date) :
    runRequest runner c request date = opening c request (runFetched runner c request date) := rfl

/-- The branch that a run is about, or why there is none. -/
def RunRequest.opened (c : Config) (request : RunRequest) (r : MemoryRepository) :
    Except Error String :=
  match request.branchIn r with
  | none => .error (.branch .noCurrent)
  | some branch => do
    let _ ← c.release.tagPattern.mapError .tag
    let _ ← c.release.branches.trackOf branch
    return branch

/-! ## There are no other ways -/

theorem running_publishPlan (runner : CommandRunner)
    (due : Due c request date r branch p plan) :
    let ended := (publishPlan runner c request.pushes plan).apply (r.withFetch request.pushes)
    (∃ e, ended.1 = .error e ∧ Running runner c request date r (.error e) ended.2) ∨
      ∃ outcome, ended.1 = .ok outcome ∧
        Running runner c request date r
          (.ok ⟨p, some outcome, runWarnings c r request p ++ outcomeWarnings outcome⟩)
          ended.2 := by
  simp only
  rw [publishPlan, Step.apply_bind]
  cases hverify : (runHook runner c .verifyConditions plan).apply (r.withFetch request.pushes) with
  | mk result verified =>
      cases result with
      | error e => exact Or.inl ⟨e, rfl, .unverified due hverify⟩
      | ok _ =>
          simp only
          have ends := publishing_publish runner c request.pushes plan verified
          rw [execute, Step.apply_bind, collaborator]
          simp only
          cases hpublish : (publish runner c request.pushes plan).apply verified with
          | mk result s =>
              rw [hpublish] at ends
              cases result with
              | error e => exact Or.inl ⟨e, rfl, .unpublished due hverify ends⟩
              | ok _ =>
                  obtain ⟨sync, t, hmerge⟩ :=
                    mergeAfter_apply (collaborator runner c request.pushes) plan.sync s
                  simp only
                  rw [Step.apply_bind, ← collaborator, hmerge]
                  exact Or.inr ⟨⟨plan, sync⟩, rfl, .released due hverify ends hmerge⟩

theorem running_runPrepared (hbranch : request.branchIn r = some branch)
    (prepared : r.prepared c branch date = .ok p)
    (current : request.rehearsal = false → r.current = some branch) :
    let ended := (runPrepared runner c request (fetchWarnings c r request.pushes) p).apply
      (r.withFetch request.pushes)
    Running runner c request date r ended.1 ended.2 := by
  simp only
  rw [runPrepared, Step.apply_bind, Step.apply_get]
  simp only
  split
  next plan hplan earnest =>
    have due : Due c request date r branch p plan :=
      ⟨hbranch, earnest, current earnest, prepared, hplan⟩
    rw [Step.apply_bind]
    have ends := running_publishPlan runner due
    cases hended : (publishPlan runner c request.pushes plan).apply
        (r.withFetch request.pushes) with
    | mk result s =>
        rw [hended] at ends
        rcases ends with ⟨e, hresult, running⟩ | ⟨outcome, hresult, running⟩
        · cases hresult
          exact running
        · cases hresult
          exact running
  next hidle =>
    refine .idle hbranch prepared ?_
    cases hplan : p.plan with
    | none => exact Or.inr rfl
    | some plan =>
        refine Or.inl ?_
        cases hrehearsal : request.rehearsal with
        | true => rfl
        | false => exact absurd hrehearsal (hidle plan hplan)

theorem requireCurrent_apply (branch : String) (s : MemoryRepository) :
    (requireCurrent branch).apply s
      = (match s.current with
        | none => .error (.branch .noCurrent)
        | some current =>
          if current = branch then .ok () else .error (.branch (.notCheckedOut branch current)),
        s) := by
  rw [requireCurrent, Step.apply_bind, apply_currentBranch]
  cases s.current with
  | none => rfl
  | some current =>
      simp only
      by_cases same : current = branch
      · rw [if_pos same, if_pos same]
        rfl
      · rw [if_neg same, if_neg same]
        rfl

theorem preparing_apply {α : Type} (c : Config) (request : RunRequest) (date : Date)
    (branch : String) (r : MemoryRepository) (rest : Prepared → Step MemoryRepository α) :
    (preparing c request date branch rest).apply r
      = match request.preparation c date branch r with
        | .error e => (.error e, r)
        | .ok p => (rest p).apply r := by
  rw [preparing, RunRequest.preparation]
  cases request.rehearsal with
  | true =>
      simp only [Bool.not_true, Bool.false_eq_true, if_false]
      rw [Step.apply_bind, ofBranch_apply]
      cases r.prepared c branch date with
      | error e => rfl
      | ok p => rfl
  | false =>
      simp only [Bool.not_false, if_true]
      rw [Step.apply_bind, requireCurrent_apply]
      cases r.current with
      | none => rfl
      | some current =>
          by_cases same : current = branch
          · simp only [if_pos same]
            rw [Step.apply_bind, ofBranch_apply]
            cases r.prepared c branch date with
            | error e => rfl
            | ok p => rfl
          · simp only [if_neg same]

theorem preparation_withFetch (wanted : Bool) :
    request.preparation c date branch (r.withFetch wanted)
      = request.preparation c date branch r := by
  cases wanted with
  | false => rfl
  | true => rfl

theorem RunRequest.prepared_of_preparation (h : request.preparation c date branch r = .ok p) :
    r.prepared c branch date = .ok p ∧
      (request.rehearsal = false → r.current = some branch) := by
  rw [RunRequest.preparation] at h
  cases earnest : request.rehearsal with
  | true =>
      rw [earnest] at h
      refine ⟨h, ?_⟩
      rintro ⟨⟩
  | false =>
      rw [earnest] at h
      cases current : r.current with
      | none =>
          rw [current] at h
          cases h
      | some other =>
          rw [current] at h
          by_cases same : other = branch
          · subst same
            simp only [if_true] at h
            exact ⟨h, fun _ => rfl⟩
          · simp only [if_neg same] at h
            cases h

theorem running_of_unprepared {e : Error} (hbranch : request.branchIn r = some branch)
    (h : request.preparation c date branch r = .error e) :
    Running runner c request date r (.error e) (r.withFetch request.pushes) := by
  rw [RunRequest.preparation] at h
  cases earnest : request.rehearsal with
  | true =>
      rw [earnest] at h
      exact .unprepared hbranch h
  | false =>
      rw [earnest] at h
      cases current : r.current with
      | none =>
          rw [current] at h
          cases h
          exact .detached earnest current
      | some other =>
          rw [current] at h
          by_cases same : other = branch
          · simp only [if_pos same] at h
            exact .unprepared hbranch h
          · simp only [if_neg same] at h
            cases h
            exact .elsewhere hbranch earnest current same

theorem running_runFetched (hbranch : request.branchIn r = some branch) :
    let ended := (runFetched runner c request date branch
      (fetchWarnings c r request.pushes)).apply (r.withFetch request.pushes)
    Running runner c request date r ended.1 ended.2 := by
  simp only
  rw [runFetched_eq, preparing_apply, preparation_withFetch]
  cases h : request.preparation c date branch r with
  | error e => exact running_of_unprepared hbranch h
  | ok p =>
      obtain ⟨prepared, current⟩ := RunRequest.prepared_of_preparation h
      exact running_runPrepared hbranch prepared current

theorem requestedBranch_apply (request : RunRequest) (r : MemoryRepository) :
    (requestedBranch request).apply r
      = (match request.branchIn r with
        | some branch => .ok branch
        | none => .error (.branch .noCurrent), r) := by
  rw [requestedBranch, RunRequest.branchIn]
  cases request.branch with
  | some branch => rfl
  | none => rfl

/-- A run fails and leaves everything alone, or it goes on with the branch that it is about. -/
theorem opening_apply {α : Type} (c : Config) (request : RunRequest) (r : MemoryRepository)
    (rest : String → List Warning → Step MemoryRepository α) :
    (opening c request rest).apply r
      = match request.opened c r with
        | .error e => (.error e, r)
        | .ok branch =>
          (rest branch (fetchWarnings c r request.pushes)).apply (r.withFetch request.pushes) := by
  rw [opening, Step.apply_bind, requestedBranch_apply, RunRequest.opened]
  cases request.branchIn r with
  | none => rfl
  | some branch =>
      simp only
      cases c.release.tagPattern with
      | error e => rfl
      | ok pattern =>
          simp only [Result.mapError_ok, Step.apply_ofExcept_bind_ok]
          cases c.release.branches.trackOf branch with
          | error e => rfl
          | ok track =>
              rw [Step.apply_ofExcept_bind_ok, news_apply]
              rfl

theorem RunRequest.branchIn_of_opened (opened : request.opened c r = .ok branch) :
    request.branchIn r = some branch := by
  rw [RunRequest.opened] at opened
  split at opened
  next => cases opened
  next found hbranch =>
    obtain ⟨_, -, opened⟩ := Result.bind_eq_ok.mp opened
    obtain ⟨_, -, opened⟩ := Result.bind_eq_ok.mp opened
    cases opened
    exact hbranch

theorem running_of_unopened {e : Error} (opened : request.opened c r = .error e) :
    Running runner c request date r (.error e) r := by
  rw [RunRequest.opened] at opened
  split at opened
  next hbranch =>
    cases opened
    exact .undecided hbranch
  next branch hbranch =>
    cases hpattern : c.release.tagPattern with
    | error e =>
        rw [hpattern] at opened
        cases opened
        exact .unconfigured hpattern
    | ok pattern =>
        rw [hpattern] at opened
        cases htrack : c.release.branches.trackOf branch with
        | error e =>
            rw [htrack] at opened
            cases opened
            exact .offTrack hbranch htrack
        | ok track =>
            rw [htrack] at opened
            cases opened

theorem running_runRequest (runner : CommandRunner) (c : Config) (request : RunRequest)
    (date : Date) (r : MemoryRepository) :
    let ended := (runRequest runner c request date).apply r
    Running runner c request date r ended.1 ended.2 := by
  simp only
  rw [runRequest_eq, opening_apply]
  cases opened : request.opened c r with
  | error e => exact running_of_unopened opened
  | ok branch => exact running_runFetched (RunRequest.branchIn_of_opened opened)

/-! ## Runs on a branch that is checked out -/

/-- A run on a branch that is checked out and can be prepared ends where it has nothing to publish,
or its plan is due and the run ends with what comes of publishing it. -/
theorem Running.cases_of_prepared {result : Except Error RunResult} {t : MemoryRepository}
    (hbranch : request.branchIn r = some branch) (current : r.current = some branch)
    (prepared : r.prepared c branch date = .ok p)
    (running : Running runner c request date r result t) :
    ((request.rehearsal = true ∨ p.plan = none) ∧
        result = .ok ⟨p, none, runWarnings c r request p⟩ ∧ t = r.withFetch request.pushes) ∨
      ∃ plan, Due c request date r branch p plan ∧
        ((∃ e, (runHook runner c .verifyConditions plan).apply (r.withFetch request.pushes)
            = (.error e, t) ∧ result = .error e) ∨
          ∃ verified, (runHook runner c .verifyConditions plan).apply (r.withFetch request.pushes)
              = (.ok (), verified) ∧
            ((∃ e, Publishing runner c request.pushes plan verified (.error e) t ∧
                result = .error e) ∨
              ∃ s sync, Publishing runner c request.pushes plan verified (.ok ()) s ∧
                (mergeAfter (collaborator runner c request.pushes) plan.sync).apply s
                  = (.ok sync, t) ∧
                result = .ok ⟨p, some ⟨plan, sync⟩,
                  runWarnings c r request p ++ outcomeWarnings ⟨plan, sync⟩⟩)) := by
  obtain ⟨pattern, linter, known⟩ := Prepared.exists_describes prepared
  have unique : ∀ {other q plan}, Due c request date r other q plan → other = branch ∧ q = p := by
    intro other q plan due
    obtain rfl := due.eq_branch hbranch
    exact ⟨rfl, Except.ok.inj (due.prepared_ok.symm.trans prepared)⟩
  cases running with
  | undecided missing =>
      rw [hbranch] at missing
      cases missing
  | unconfigured failed =>
      rw [known.pattern_ok] at failed
      cases failed
  | offTrack hother failed =>
      rw [hbranch] at hother
      cases hother
      rw [known.track_ok] at failed
      cases failed
  | detached _ missing =>
      rw [current] at missing
      cases missing
  | elsewhere hother _ hcurrent different =>
      rw [hbranch] at hother
      rw [current] at hcurrent
      exact absurd (hcurrent.symm.trans hother) fun same => different (Option.some.inj same)
  | unprepared hother failed =>
      rw [hbranch] at hother
      cases hother
      rw [prepared] at failed
      cases failed
  | idle hother hprepared quiet =>
      rw [hbranch] at hother
      cases hother
      rw [prepared] at hprepared
      cases hprepared
      exact Or.inl ⟨quiet, rfl, rfl⟩
  | unverified due hverify =>
      obtain ⟨rfl, rfl⟩ := unique due
      exact Or.inr ⟨_, due, Or.inl ⟨_, hverify, rfl⟩⟩
  | unpublished due hverify ends =>
      obtain ⟨rfl, rfl⟩ := unique due
      exact Or.inr ⟨_, due, Or.inr ⟨_, hverify, Or.inl ⟨_, ends, rfl⟩⟩⟩
  | released due hverify ends hmerge =>
      obtain ⟨rfl, rfl⟩ := unique due
      exact Or.inr ⟨_, due, Or.inr ⟨_, hverify, Or.inr ⟨_, _, ends, hmerge, rfl⟩⟩⟩

end ReleasePlanner
