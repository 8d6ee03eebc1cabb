import ReleasePlanner.Proofs.Version.Order
import ReleasePlanner.Release.History

/-!
# The latest releases

The history of some tags holds the greatest versions among them: the greatest
stable one (`isLatest_stable`), and the greatest pre-release with the
identifier in use (`isLatest_prerelease`).  The release that the next one is
measured against is the greatest version that counts on its track
(`isLatest_last?`), so it is the version of one of the tags (`names_of_last?`).
-/

namespace ReleasePlanner

/-- The version is one of some versions and none of them is above it, or there are no versions and
there is none. -/
def Version.IsLatest (among : Version → Prop) : Option Version → Prop
  | none => ∀ v, ¬among v
  | some latest => among latest ∧ ∀ v, among v → latest.below v = false

/-- A stable version, or a pre-release with the identifier in use. -/
def Version.OnTrack (prereleaseId : String) (v : Version) : Track → Prop
  | .release => v.pre = none
  | .prerelease => ∃ n, v.pre = some ⟨prereleaseId, n⟩

/-- A version that the next one on a track is measured against: one of the track, or a stable
one. -/
def Version.CountsOn (prereleaseId : String) (v : Version) (track : Track) : Prop :=
  v.OnTrack prereleaseId .release ∨ v.OnTrack prereleaseId track

namespace Version.IsLatest

variable {among others : Version → Prop} {latest : Option Version}

theorem congr (h : IsLatest among latest) (same : ∀ v, among v ↔ others v) :
    IsLatest others latest := by
  have heq : among = others := funext fun v => propext (same v)
  rwa [← heq]

theorem mem {v : Version} (h : IsLatest among (some v)) : among v := h.1

/-- What the latest version is below, all versions are below. -/
theorem below_of_below {v w : Version} (h : IsLatest among latest)
    (above : ∀ l, latest = some l → l.below v = true) (hw : among w) : w.below v = true := by
  cases latest with
  | none => exact absurd hw (h w)
  | some l => exact below_of_notBelow_of_below (h.2 w hw) (above l rfl)

/-- A version that is above all others is the latest. -/
theorem eq_of_above {v : Version} (h : IsLatest among latest) (hv : among v)
    (above : ∀ w, among w → w = v ∨ w.below v = true) : latest = some v := by
  cases latest with
  | none => exact absurd hv (h v)
  | some l =>
      obtain ⟨hmem, hmax⟩ := h
      rcases above l hmem with rfl | hbelow
      · rfl
      · rw [hmax v hv] at hbelow
        cases hbelow

/-- The greater of the latest version and another one is the latest of all. -/
theorem raise (h : IsLatest among latest) (v : Version) :
    IsLatest (fun w => among w ∨ w = v) (History.raise latest v) := by
  cases latest with
  | none =>
      refine ⟨Or.inr rfl, ?_⟩
      rintro w (hw | rfl)
      · exact absurd hw (h w)
      · exact not_below_self w
  | some latest =>
      obtain ⟨hmem, hmax⟩ := h
      rw [History.raise]
      split
      next hbelow =>
        refine ⟨Or.inr rfl, ?_⟩
        rintro w (hw | rfl)
        · -- A version above the new one would be above the latest one as well.
          cases habove : v.below w with
          | false => rfl
          | true => rw [← hmax w hw, below_trans hbelow habove]
        · exact not_below_self w
      next hnot =>
        refine ⟨Or.inl hmem, ?_⟩
        rintro w (hw | rfl)
        · exact hmax w hw
        · exact (Bool.not_eq_true _).mp hnot

theorem foldl_raise (h : IsLatest among latest) (vs : List Version) :
    IsLatest (fun w => among w ∨ w ∈ vs) (vs.foldl History.raise latest) := by
  induction vs generalizing among latest with
  | nil => exact h.congr fun w => by simp
  | cons v vs ih =>
      refine (ih (h.raise v)).congr fun w => ?_
      rw [List.mem_cons, or_assoc]

/-- The greater of the latest of some versions and the latest of others is the latest of all. -/
theorem either {next : Option Version} (h : IsLatest among latest) (h' : IsLatest others next) :
    IsLatest (fun v => among v ∨ others v) (next.elim latest (History.raise latest)) := by
  cases next with
  | none => exact h.congr fun v => by simp [h' v]
  | some p =>
      obtain ⟨hp, hmax⟩ := h'
      have raised := h.raise p
      rw [Option.elim_some]
      cases hraise : History.raise latest p with
      | none =>
          rw [hraise] at raised
          exact absurd (Or.inr rfl) (raised p)
      | some l =>
          rw [hraise] at raised
          refine ⟨raised.1.imp_right fun (same : l = p) => same ▸ hp, ?_⟩
          rintro v (hv | hv)
          · exact raised.2 v (Or.inl hv)
          · -- A version above the latest one would be above the latest of the others as well.
            cases habove : l.below v with
            | false => rfl
            | true =>
                rw [← hmax v hv, below_of_notBelow_of_below (raised.2 p (Or.inr rfl)) habove]

end Version.IsLatest

namespace History

open Version (IsLatest)

variable {pattern : TagPattern} {prereleaseId : String} {tags : List String}

/-- The versions of some tags. -/
def Names (pattern : TagPattern) (tags : List String) (v : Version) : Prop :=
  ∃ tag ∈ tags, pattern.parse? tag = some v

/-! ## Recording versions -/

theorem stable_foldl_record (h : History) (vs : List Version) :
    (vs.foldl (record prereleaseId) h).stable
      = (vs.filter fun v => decide (v.pre = none)).foldl raise h.stable := by
  induction vs generalizing h with
  | nil => rfl
  | cons v vs ih =>
      rw [List.foldl_cons, ih, record]
      cases hpre : v.pre with
      | none => simp [hpre]
      | some p =>
          simp only
          split <;> simp [hpre]

theorem prerelease_foldl_record (h : History) (vs : List Version) :
    (vs.foldl (record prereleaseId) h).prerelease
      = (vs.filter fun v => v.pre.any fun p => p.identifier == prereleaseId).foldl raise
          h.prerelease := by
  induction vs generalizing h with
  | nil => rfl
  | cons v vs ih =>
      rw [List.foldl_cons, ih, record]
      cases hpre : v.pre with
      | none => simp [hpre]
      | some p =>
          simp only
          split <;> rename_i hid <;> simp [hpre, hid]

theorem isLatest_foldl_filter (keeps : Version → Bool) (vs : List Version) :
    IsLatest (fun v => keeps v = true ∧ v ∈ vs) ((vs.filter keeps).foldl raise none) := by
  have hnone : IsLatest (fun _ => False) none := fun _ h => h
  refine (hnone.foldl_raise (vs.filter keeps)).congr fun v => ?_
  rw [List.mem_filter, false_or, and_comm]

/-! ## The history of tags -/

theorem mem_filterMap_parse? {v : Version} :
    v ∈ tags.filterMap pattern.parse? ↔ Names pattern tags v :=
  List.mem_filterMap

/-- The latest stable version is the greatest one among the tags. -/
theorem isLatest_stable (pattern : TagPattern) (prereleaseId : String) (tags : List String) :
    IsLatest (fun v => v.OnTrack prereleaseId .release ∧ Names pattern tags v)
      (ofTags pattern prereleaseId tags).stable := by
  rw [ofTags, stable_foldl_record]
  refine (isLatest_foldl_filter _ _).congr fun v => ?_
  rw [mem_filterMap_parse?, decide_eq_true_iff]
  rfl

/-- The latest pre-release is the greatest one among the tags with the identifier in use. -/
theorem isLatest_prerelease (pattern : TagPattern) (prereleaseId : String) (tags : List String) :
    IsLatest (fun v => v.OnTrack prereleaseId .prerelease ∧ Names pattern tags v)
      (ofTags pattern prereleaseId tags).prerelease := by
  rw [ofTags, prerelease_foldl_record]
  refine (isLatest_foldl_filter _ _).congr fun v => ?_
  rw [mem_filterMap_parse?]
  cases hpre : v.pre with
  | none => simp [Version.OnTrack, hpre]
  | some p =>
      cases p with
      | mk identifier iteration => simp [Version.OnTrack, hpre]

theorem last?_prerelease (h : History) :
    h.last? .prerelease = h.prerelease.elim h.stable (raise h.stable) := by
  rw [last?]
  cases h.stable with
  | none => cases h.prerelease <;> rfl
  | some s => cases h.prerelease <;> rfl

/-- The next release is measured against the greatest version that counts on its track. -/
theorem isLatest_last? (pattern : TagPattern) (prereleaseId : String) (tags : List String)
    (track : Track) :
    IsLatest (fun v => v.CountsOn prereleaseId track ∧ Names pattern tags v)
      ((ofTags pattern prereleaseId tags).last? track) := by
  have stables := isLatest_stable pattern prereleaseId tags
  have steps := isLatest_prerelease pattern prereleaseId tags
  cases track with
  | release => exact stables.congr fun v => by rw [Version.CountsOn, or_self]
  | prerelease =>
      have greater := stables.either steps
      rw [← last?_prerelease] at greater
      exact greater.congr fun v => or_and_right.symm

/-- What the next release is measured against is one of the two latest releases. -/
theorem last?_eq_some {h : History} {track : Track} {v : Version} (last : h.last? track = some v) :
    h.stable = some v ∨ h.prerelease = some v := by
  cases track with
  | release => exact Or.inl last
  | prerelease =>
      simp only [last?] at last
      split at last
      next stable prerelease hstable hpre =>
        split at last
        · exact Or.inr (hpre.trans last)
        · exact Or.inl (hstable.trans last)
      next stable hstable hpre => exact Or.inl (hstable.trans last)
      next hstable => exact Or.inr last

/-- What the next release is measured against is the version of a tag. -/
theorem names_of_last? {track : Track} {v : Version}
    (last : (ofTags pattern prereleaseId tags).last? track = some v) : Names pattern tags v := by
  have hstable := isLatest_stable pattern prereleaseId tags
  have hpre := isLatest_prerelease pattern prereleaseId tags
  rcases last?_eq_some last with found | found
  · rw [found] at hstable
    exact hstable.mem.2
  · rw [found] at hpre
    exact hpre.mem.2

end History

end ReleasePlanner
