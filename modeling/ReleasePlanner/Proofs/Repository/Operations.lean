import ReleasePlanner.Proofs.Repository.InMemory

/-!
# Repositories that were built

A repository is built from nothing by operations, and a tag is put on commits
that are there (`Built`).  Operations may fail, and then they leave what they
did before.  To commits, branches and tags an operation does one of five things
(`Operation.does`).  Whatever is built this way is sound (`Built.sound`), which
is all that is needed to know how far its commits reach.
-/

namespace ReleasePlanner.MemoryRepository

/-! ## Operations -/

/-- What may be done to a repository in memory. -/
inductive Operation where
  /-- A commit on top of a branch. -/
  | addCommit (branch message : String)
  /-- Lets a branch point at the head of another. -/
  | createBranch (branch source : String)
  /-- Checks a branch out. -/
  | checkout (branch : String)
  /-- Lets a tag point at a commit, whether it was there or not. -/
  | addTag (name : String) (id : CommitId)
  /-- Makes a tag, which must not be there. -/
  | createTag (name : String) (id : CommitId)
  /-- A release commit on the branch that is checked out. -/
  | commitPaths (paths : List String) (message : String)
  /-- Merges one branch into another. -/
  | mergeBranch (source target : String)
  /-- Pushes. -/
  | push (remote : String) (refspecs : List String)
  /-- Fetches. -/
  | fetch (remote : String)
  /-- Gives the repository other files, or takes them away. -/
  | setFiles (files : Option FileTree)
  /-- Lets merges, pushes and fetches fail or work. -/
  | setFailing (merges pushes fetches : Bool)

/-- The repository after an operation. -/
def Operation.perform (r : MemoryRepository) : Operation → MemoryRepository
  | .addCommit branch message => r.addCommit branch message
  | .createBranch branch source => ((MemoryRepository.createBranch branch source).apply r).2
  | .checkout branch => r.checkout branch
  | .addTag name id => r.addTag name id
  | .createTag name id => ((MemoryRepository.createTag name id).apply r).2
  | .commitPaths paths message => ((MemoryRepository.commitPaths paths message).apply r).2
  | .mergeBranch source target => ((MemoryRepository.mergeBranch source target).apply r).2
  | .push remote refspecs => ((MemoryRepository.push remote refspecs).apply r).2
  | .fetch remote => ((MemoryRepository.fetch remote).apply r).2
  | .setFiles files => { r with files := files }
  | .setFailing merges pushes fetches =>
    { r with mergesFail := merges, pushesFail := pushes, fetchesFail := fetches }

/-- Tags are put on commits that are there. -/
def Operation.Aims (r : MemoryRepository) : Operation → Prop
  | .addTag _ id => r.Holds id
  | .createTag _ id => r.Holds id
  | _ => True

/-- The operation lets a branch point at the head of another, wherever the branch was before. -/
def Operation.MakesBranch : Operation → Prop
  | .createBranch _ _ => True
  | _ => False

/-- What can be built from nothing. -/
inductive Built : MemoryRepository → Prop where
  | empty : Built .empty
  | step {r : MemoryRepository} (operation : Operation) :
      Built r → operation.Aims r → Built (operation.perform r)

variable {r s : MemoryRepository}

/-! ## What operations do to the graph -/

/-- The second repository has the commits, branches and tags of the first. -/
structure SameGraph (r s : MemoryRepository) : Prop where
  commits : s.commits = r.commits
  heads : s.heads = r.heads
  tags : s.tags = r.tags

/-- What an operation can do to commits, branches and tags.  Whatever else it changes is not told. -/
inductive Operation.Does (r : MemoryRepository) (operation : Operation) :
    MemoryRepository → Prop where
  | nothing {s : MemoryRepository} : SameGraph r s → Does r operation s
  | commit (branch message : String) {s : MemoryRepository} :
      SameGraph (r.addCommit branch message) s → Does r operation s
  | branch (branch source : String) (id : CommitId) : operation.MakesBranch →
      r.head? source = some id → Does r operation (r.setHead branch id)
  | tag (name : String) (id : CommitId) : (operation.Aims r → r.Holds id) →
      Does r operation (r.addTag name id)
  | merge (source target : String) (a b : CommitId) {listed : MemoryRepository} :
      SameGraph r listed → listed.head? source = some a → listed.head? target = some b →
      Does r operation (listed.join source target a b).2

/-- Every operation does one of these things, also where it fails. -/
theorem Operation.does (r : MemoryRepository) (operation : Operation) :
    operation.Does r (operation.perform r) := by
  cases operation with
  | addCommit branch message => exact .commit branch message ⟨rfl, rfl, rfl⟩
  | createBranch branch source =>
      rw [perform, MemoryRepository.createBranch, Step.apply_make]
      split
      next id hhead => exact .branch branch source id True.intro (head?_of_head hhead)
      next => exact .nothing ⟨rfl, rfl, rfl⟩
  | addTag name id => exact .tag name id fun aims => aims
  | createTag name id =>
      rw [perform, MemoryRepository.createTag, Step.apply_make]
      split
      next => exact .nothing ⟨rfl, rfl, rfl⟩
      next => exact .tag name id fun aims => aims
  | commitPaths paths message =>
      rw [perform, MemoryRepository.commitPaths, Step.apply_make]
      split
      next => exact .nothing ⟨rfl, rfl, rfl⟩
      next branch _ => exact .commit branch message ⟨rfl, rfl, rfl⟩
  | mergeBranch source target =>
      rw [perform]
      rcases mergeBranch_cases r source target with ⟨e, failed⟩ | ⟨a, b, ha, hb, _, rfl, merged⟩
      · rw [failed]
        exact .nothing ⟨rfl, rfl, rfl⟩
      · rw [merged]
        exact .merge source target a b ⟨rfl, rfl, rfl⟩ ha hb
  | push remote refspecs =>
      rw [perform, MemoryRepository.push, Step.apply_make]
      split <;> exact .nothing ⟨rfl, rfl, rfl⟩
  | fetch remote =>
      rw [perform, MemoryRepository.fetch, Step.apply_make]
      split <;> exact .nothing ⟨rfl, rfl, rfl⟩
  | checkout | setFiles | setFailing => exact .nothing ⟨rfl, rfl, rfl⟩

/-! ## What is built is sound -/

theorem SameGraph.sound (same : SameGraph r s) (sound : r.Sound) : s.Sound :=
  sound.congr same.commits same.heads same.tags

theorem Sound.perform (sound : r.Sound) (operation : Operation) (aims : operation.Aims r) :
    (operation.perform r).Sound := by
  have does := operation.does r
  generalize operation.perform r = s at does ⊢
  cases does with
  | nothing same => exact same.sound sound
  | commit branch message same => exact same.sound sound.addCommit
  | branch branch source id _ hhead => exact sound.setHead (sound.head_held source id hhead)
  | tag name id aimed => exact sound.addTag (aimed aims)
  | merge source target a b same ha hb =>
      have listed := same.sound sound
      exact listed.join (listed.head_held source a ha) (listed.head_held target b hb)

theorem Built.sound (built : Built r) : r.Sound := by
  induction built with
  | empty => exact .blank rfl rfl rfl
  | step operation _ aims ih => exact ih.perform operation aims

end ReleasePlanner.MemoryRepository
