import ReleasePlanner.Proofs.Release.History
import ReleasePlanner.Proofs.Version.Precedence
import ReleasePlanner.Proofs.Version.Spelling

/-!
# What the latest releases depend on

No two versions of a track stand level (`Version.OnTrack.eq_of_notBelow`), so
the greatest of some of them is one of a kind (`Version.IsLatest.unique`).  The
history of some tags is then told by which versions count.  It is the same for
every order of the tags, however often they are repeated and whatever tags that
do not count are among them (`ofTags_latest`).
-/

namespace ReleasePlanner

open Version (IsLatest)

variable {prereleaseId : String} {v w : Version} {track : Track}

/-! ## Versions of one track -/

/-- Versions of one track of which neither is below the other are the same. -/
theorem Version.OnTrack.eq_of_notBelow (hlegal : Identifier.legal prereleaseId.toList = true)
    (hv : v.OnTrack prereleaseId track) (hw : w.OnTrack prereleaseId track)
    (hvw : v.below w = false) (hwv : w.below v = false) : v = w := by
  cases track with
  | release => exact Version.eq_of_notBelow hv hw hvw hwv
  | prerelease =>
      obtain ⟨n, hv⟩ := hv
      obtain ⟨m, hw⟩ := hw
      rw [notBelow_iff] at hvw hwv
      obtain ⟨base, rank⟩ := compare_eq_iff.mp (Std.OrientedCmp.isLE_antisymm hwv hvw)
      rw [rank?, rank?, hv, hw, Option.bind_some, Option.bind_some] at rank
      have same : (⟨prereleaseId, n⟩ : PreRelease) = ⟨prereleaseId, m⟩ :=
        PreRelease.rank?_injective hlegal hlegal rank
      rw [← base_withPre_of_pre hv, ← base_withPre_of_pre hw, base, same]

/-- There is one latest version only, where no two versions stand level. -/
theorem Version.IsLatest.unique {among : Version → Prop} {latest other : Option Version}
    (h : IsLatest among latest) (h' : IsLatest among other)
    (distinct : ∀ v w, among v → among w → v.below w = false → w.below v = false → v = w) :
    latest = other := by
  cases latest with
  | none =>
      cases other with
      | none => rfl
      | some w => exact absurd h'.mem (h w)
  | some v =>
      cases other with
      | none => exact absurd h.mem (h' v)
      | some w => rw [distinct v w h.mem h'.mem (h.2 w h'.mem) (h'.2 v h.mem)]

namespace History

variable {pattern : TagPattern} {tag : String} {tags others : List String}

/-! ## Tags that count -/

/-- The tag does not count: it spells no version, the numbers of its version are too large to be
read, or its version carries another identifier than the one in use. -/
def Ignored (pattern : TagPattern) (prereleaseId tag : String) : Prop :=
  (∀ v, ¬pattern.Spells tag v) ∨ (∃ v, pattern.Spells tag v ∧ ¬v.Fits) ∨
    ∃ v p, pattern.Spells tag v ∧ v.pre = some p ∧ p.identifier ≠ prereleaseId

theorem Ignored.not_onTrack (ignored : Ignored pattern prereleaseId tag)
    (hparse : pattern.parse? tag = some v) : ¬v.OnTrack prereleaseId track := by
  obtain ⟨spells, fits⟩ := TagPattern.parse?_eq_some_iff.mp hparse
  intro onTrack
  rcases ignored with none_spelled | ⟨w, others, large⟩ | ⟨w, p, others, hpre, different⟩
  · exact none_spelled v spells
  · exact large (spells.unique others ▸ fits)
  · rw [← spells.unique others] at hpre
    cases track with
    | release =>
        rw [show v.pre = none from onTrack] at hpre
        cases hpre
    | prerelease =>
        obtain ⟨n, same⟩ := onTrack
        rw [same] at hpre
        cases hpre
        exact different rfl

/-- Tags that do not count name no further version of a track. -/
theorem names_iff_of_ignored (kept : ∀ tag ∈ tags, tag ∈ others)
    (added : ∀ tag ∈ others, tag ∈ tags ∨ Ignored pattern prereleaseId tag)
    (onTrack : v.OnTrack prereleaseId track) : Names pattern others v ↔ Names pattern tags v := by
  constructor
  · rintro ⟨tag, mem, hparse⟩
    rcases added tag mem with mem | ignored
    · exact ⟨tag, mem, hparse⟩
    · exact absurd onTrack (ignored.not_onTrack hparse)
  · rintro ⟨tag, mem, hparse⟩
    exact ⟨tag, kept tag mem, hparse⟩

/-- Only which versions of the tracks are named makes a difference. -/
theorem ofTags_eq_of_names (hlegal : Identifier.legal prereleaseId.toList = true)
    (same : ∀ v track, v.OnTrack prereleaseId track →
      (Names pattern others v ↔ Names pattern tags v)) :
    ofTags pattern prereleaseId others = ofTags pattern prereleaseId tags := by
  have distinct : ∀ track v w, v.OnTrack prereleaseId track ∧ Names pattern tags v →
      w.OnTrack prereleaseId track ∧ Names pattern tags w → v.below w = false →
      w.below v = false → v = w :=
    fun _ _ _ hv hw => hv.1.eq_of_notBelow hlegal hw.1
  have stable := ((isLatest_stable pattern prereleaseId others).congr
    fun v => and_congr_right (same v .release)).unique
      (isLatest_stable pattern prereleaseId tags) (distinct .release)
  have prerelease := ((isLatest_prerelease pattern prereleaseId others).congr
    fun v => and_congr_right (same v .prerelease)).unique
      (isLatest_prerelease pattern prereleaseId tags) (distinct .prerelease)
  have both := congr (congrArg History.mk stable) prerelease
  exact both

/-- What the next pre-release is measured against is the greater of the two latest releases. -/
theorem isLatest_last?_prerelease (h : History) :
    IsLatest (fun v => h.stable = some v ∨ h.prerelease = some v) (h.last? .prerelease) := by
  have alone : ∀ latest : Option Version, IsLatest (fun v => latest = some v) latest := by
    intro latest
    cases latest with
    | none => exact fun v => (Option.some_ne_none v).symm
    | some w =>
        refine ⟨rfl, ?_⟩
        rintro _ ⟨⟩
        exact Version.not_below_self w
  rw [last?_prerelease]
  exact (alone h.stable).either (alone h.prerelease)

end History

/-- The history of some tags holds the greatest stable version among them and the greatest
pre-release with the identifier in use, as far as there are any.  It is the same for all lists that
hold the same tags, and tags that do not count may be added anywhere.  What the next pre-release is
measured against is the greater of the two. -/
theorem ofTags_latest (hlegal : Identifier.legal prereleaseId.toList = true)
    (pattern : TagPattern) (tags : List String) :
    let h := History.ofTags pattern prereleaseId tags
    IsLatest (fun v => v.pre = none ∧ History.Names pattern tags v) h.stable ∧
      IsLatest (fun v => (∃ n, v.pre = some ⟨prereleaseId, n⟩) ∧ History.Names pattern tags v)
        h.prerelease ∧
      (∀ others : List String, (∀ tag ∈ tags, tag ∈ others) →
        (∀ tag ∈ others, tag ∈ tags ∨ History.Ignored pattern prereleaseId tag) →
        History.ofTags pattern prereleaseId others = h) ∧
      IsLatest (fun v => h.stable = some v ∨ h.prerelease = some v) (h.last? .prerelease) := by
  refine ⟨History.isLatest_stable pattern prereleaseId tags,
    History.isLatest_prerelease pattern prereleaseId tags, fun others kept added => ?_,
    History.isLatest_last?_prerelease _⟩
  exact History.ofTags_eq_of_names hlegal fun v track onTrack =>
    History.names_iff_of_ignored kept added onTrack

/-- A number that is too large, a name of another kind and a candidate with another identifier are
added, the tags are put in another order, and one of them is repeated. -/
theorem latest_among_others :
    History.ofTags ⟨['v'], []⟩ "rc" ["v1.3.0-rc.2", "v18446744073709551616.0.0", "nightly",
        "v1.2.0", "v1.4.0-beta.1", "v1.3.0-rc.10", "v1.3.0-rc.2"]
      = ⟨some (.stable 1 2 0), some ⟨1, 3, 0, some ⟨"rc", 10⟩⟩⟩ := by
  have other : History.Ignored ⟨['v'], []⟩ "rc" "nightly" := by
    refine Or.inl ?_
    rintro v ⟨text, htag, -⟩
    exact absurd (List.cons.inj htag).1 (by decide)
  have large : History.Ignored ⟨['v'], []⟩ "rc" "v18446744073709551616.0.0" := by
    refine Or.inr (Or.inl ⟨.stable 18446744073709551616 0 0,
      ⟨"18446744073709551616.0.0".toList, by decide, .stable ?_ rfl⟩, ?_⟩)
    · exact ⟨"18446744073709551616".toList, ['0'], ['0'], by decide,
        ⟨by decide, List.all_eq_true.mp (by decide), by decide⟩, Text.numeral_decimal 0,
        Text.numeral_decimal 0⟩
    · exact fun fits => absurd fits.major_le (by decide)
  have foreign : History.Ignored ⟨['v'], []⟩ "rc" "v1.4.0-beta.1" := by
    have hparse : TagPattern.parse? ⟨['v'], []⟩ "v1.4.0-beta.1"
        = some ⟨1, 4, 0, some ⟨"beta", 1⟩⟩ := by decide
    exact Or.inr (Or.inr ⟨_, _, (TagPattern.parse?_eq_some_iff.mp hparse).1, rfl, by decide⟩)
  have hlegal : Identifier.legal "rc".toList = true := by decide
  obtain ⟨-, -, same, -⟩ :=
    ofTags_latest hlegal ⟨['v'], []⟩ ["v1.2.0", "v1.3.0-rc.2", "v1.3.0-rc.10"]
  rw [same _ (by decide) (by simp [other, large, foreign])]
  decide

end ReleasePlanner
