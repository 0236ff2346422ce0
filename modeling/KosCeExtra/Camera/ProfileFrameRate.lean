import KosCeExtra.Camera.ConfigureCamera

/-!
# The frame rate of the chosen profile

The README of the example speaks of the highest frame rate within the limits.
`ConfigureCamera` does not read `fps`: it takes the first listed of the tallest
profiles, and misses a faster one of the same format and resolution behind it.
-/

namespace KosCeExtra.Camera

open Dialogue

/-- The same pixel format and resolution. -/
def SameMode (info other : CameraInfo) : Prop :=
  other.pFmt = info.pFmt ∧ other.resX = info.resX ∧ other.resY = info.resY

/-- No profile of the format and resolution of a selected one is faster. -/
def PrefersFps (profiles : List CameraInfo) (record : Record) : Prop :=
  ∀ index code, ⟨.cameraSelectProfile index, code⟩ ∈ record →
    ∀ selected, profiles[index.toNat]? = some selected →
      ∀ other ∈ profiles, SameMode selected other →
        other.fps ≤ selected.fps

/-- Behind the first of the tallest admissible profiles, the camera lists a faster
one of the same format and resolution. -/
def FasterBehind (height : Nat) (pFmt : CameraPixelFormat)
    (profiles : List CameraInfo) : Prop :=
  ∃ index info later faster,
    IsBestProfile height pFmt profiles index info ∧ index < later ∧
      profiles[later]? = some faster ∧ SameMode info faster ∧
      info.fps < faster.fps

section Choice

variable {height : Nat} {pFmt : CameraPixelFormat} {profiles : List CameraInfo}
  {index : Nat} {info : CameraInfo} {world : World Call Reply}

theorem not_selected_of_enumerated {start count : Nat} {index : UInt32}
    {code : Retcode} :
    ⟨.cameraSelectProfile index, code⟩ ∉ enumerated world start count := by
  intro member
  obtain ⟨place, -, impossible⟩ := List.mem_map.mp member
  cases impossible

private theorem prefersFps_enumerated {start count : Nat} :
    PrefersFps profiles (enumerated world start count) := by
  intro index code member
  exact absurd member not_selected_of_enumerated

private theorem Admissible.of_sameMode (admissible : Admissible height pFmt info)
    {other : CameraInfo} (same : SameMode info other) :
    Admissible height pFmt other := by
  obtain ⟨format, -, sameHeight⟩ := same
  rw [Admissible, format, sameHeight]
  exact admissible

/-- A faster profile of the format and resolution of the first of the tallest is listed
behind it. -/
theorem IsBestProfile.lt_of_faster
    (best : IsBestProfile height pFmt profiles index info) {later : Nat}
    {faster : CameraInfo} (listed : profiles[later]? = some faster)
    (same : SameMode info faster) (less : info.fps < faster.fps) :
    index < later := by
  apply Nat.lt_of_le_of_ne
  · exact best.first later faster listed (best.admissible.of_sameMode same)
      (congrArg UInt32.toNat same.2.2)
  · rintro rfl
    rw [best.here] at listed
    cases listed
    exact absurd less (Int.lt_irrefl _)

/-- With the first of the tallest profiles selected, only later profiles can be
faster. -/
theorem prefersFps_selected_iff
    (best : IsBestProfile height pFmt profiles index info)
    (indexed : profiles.length < UInt32.size) {start count : Nat}
    {code : Retcode} :
    PrefersFps profiles (enumerated world start count ++
        [⟨.cameraSelectProfile (UInt32.ofNat index), code⟩]) ↔
      ¬ FasterBehind height pFmt profiles := by
  have place : (UInt32.ofNat index).toNat = index :=
    UInt32.toNat_ofNat_of_lt' (Nat.lt_trans best.lt_length indexed)
  constructor
  · intro prefers behind
    obtain ⟨_, _, later, faster, sameBest, -, found, same, less⟩ := behind
    obtain ⟨rfl, rfl⟩ := best.unique sameBest
    have limit := prefers (UInt32.ofNat index) code
      (List.mem_append_right _ List.mem_cons_self) info
      (by rw [place]; exact best.here) faster (List.mem_of_getElem? found) same
    exact absurd less (Int.not_lt.mpr limit)
  · intro none chosen reply member selected found other otherMember same
    rcases List.mem_append.mp member with impossible | last
    · exact absurd impossible not_selected_of_enumerated
    · cases List.mem_singleton.mp last
      rw [place, best.here] at found
      cases found
      by_contra notLe
      have less : info.fps < other.fps := Int.not_le.mp notLe
      obtain ⟨later, there⟩ := List.mem_iff_getElem?.mp otherMember
      exact none ⟨index, info, later, other, best, best.lt_of_faster there same less,
        there, same, less⟩

end Choice

/-- `ConfigureCamera` selects a profile with the highest frame rate of its format
and resolution if and only if the camera lists no faster one behind it. -/
theorem configureCamera_prefersFps_iff (enumeration : Enumeration)
    (height : Nat) (pFmt : CameraPixelFormat) (world : World Call Reply)
    (reported : enumeration.ReportedBy world) (attempts : Nat)
    (enough : enumeration.profiles.length < attempts) :
    PrefersFps enumeration.profiles
        ((configureCamera height pFmt attempts).run world []).2 ↔
      ¬ (enumeration.ending = .rcResourceNotFound ∧
        FasterBehind height pFmt enumeration.profiles) := by
  by_cases ended : enumeration.ending = .rcResourceNotFound
  · rw [and_iff_right ended]
    rcases run_configureCamera_ended reported enough ended with
      ⟨none, ran⟩ | ⟨index, info, code, best, ran⟩
    · rw [ran]
      refine iff_of_true prefersFps_enumerated ?_
      intro behind
      obtain ⟨index, info, later, faster, best, -⟩ := behind
      exact none info (List.mem_of_getElem? best.here) best.admissible
    · rw [ran]
      exact prefersFps_selected_iff best enumeration.indexed
  · rw [run_configureCamera_failed reported enough ended]
    exact iff_of_true prefersFps_enumerated fun both => ended both.1

/-- What `ConfigureCamera` selects is the first listed of the tallest profiles of the
format within the limit. -/
theorem isBestProfile_of_selected {enumeration : Enumeration} {height : Nat}
    {pFmt : CameraPixelFormat} {world : World Call Reply}
    (reported : enumeration.ReportedBy world) {attempts : Nat}
    (enough : enumeration.profiles.length < attempts) {index : UInt32}
    {code : Retcode} (selected : ⟨.cameraSelectProfile index, code⟩ ∈
      ((configureCamera height pFmt attempts).run world []).2) :
    ∃ info, IsBestProfile height pFmt enumeration.profiles index.toNat info := by
  by_cases ended : enumeration.ending = .rcResourceNotFound
  · rcases run_configureCamera_ended reported enough ended with
      ⟨-, ran⟩ | ⟨best, info, reply, isBest, ran⟩
    · rw [ran] at selected
      exact absurd selected not_selected_of_enumerated
    · rw [ran] at selected
      rcases List.mem_append.mp selected with impossible | last
      · exact absurd impossible not_selected_of_enumerated
      · cases List.mem_singleton.mp last
        have place : (UInt32.ofNat best).toNat = best :=
          UInt32.toNat_ofNat_of_lt'
            (Nat.lt_trans isBest.lt_length enumeration.indexed)
        rw [place]
        exact ⟨info, isBest⟩
  · rw [run_configureCamera_failed reported enough ended] at selected
    exact absurd selected not_selected_of_enumerated

/-- `ConfigureCamera` does not look at the frame rates: a selected profile is the first
listed of the tallest profiles of the format within the limit, so a faster one of the
same format and resolution can only be listed behind it; and such a profile is missed
whenever there is one. -/
theorem configureCamera_selects_first_listed (enumeration : Enumeration)
    (height : Nat) (pFmt : CameraPixelFormat) (world : World Call Reply)
    (reported : enumeration.ReportedBy world) (attempts : Nat)
    (enough : enumeration.profiles.length < attempts) :
    (∀ index code, ⟨.cameraSelectProfile index, code⟩ ∈
        ((configureCamera height pFmt attempts).run world []).2 →
      ∃ selected, IsBestProfile height pFmt enumeration.profiles index.toNat selected ∧
        ∀ later faster, enumeration.profiles[later]? = some faster →
          SameMode selected faster → selected.fps < faster.fps →
            index.toNat < later) ∧
      (PrefersFps enumeration.profiles
          ((configureCamera height pFmt attempts).run world []).2 ↔
        ¬ (enumeration.ending = .rcResourceNotFound ∧
          FasterBehind height pFmt enumeration.profiles)) := by
  constructor
  · intro index code selected
    obtain ⟨info, best⟩ := isBestProfile_of_selected reported enough selected
    refine ⟨info, best, ?_⟩
    intro later faster listed same less
    exact best.lt_of_faster listed same less
  · exact configureCamera_prefersFps_iff enumeration height pFmt world reported
      attempts enough

/-- `1920x1080@30` before `1920x1080@15`. -/
def fastFirst : Enumeration :=
  { slowFirst with
    profiles := slowFirst.profiles.reverse
    indexed := by decide }

theorem configureCamera_selects_fastFirst :
    (∃ selected, IsBestProfile 1080 .mjpeg fastFirst.profiles 0 selected) ∧
      PrefersFps fastFirst.profiles
        ((configureCamera 1080 .mjpeg 3).run
          (fastFirst.camera unsetInfo) []).2 := by
  obtain ⟨first, prefers⟩ := configureCamera_selects_first_listed fastFirst 1080
    .mjpeg (fastFirst.camera unsetInfo) (fastFirst.reportedBy_camera unsetInfo) 3
    (by decide)
  constructor
  · obtain ⟨selected, best, -⟩ := first 0 .rcOk (List.mem_append_right
      (enumerated (fastFirst.camera unsetInfo) 0 3) List.mem_cons_self)
    exact ⟨selected, best⟩
  · apply prefers.mpr
    intro listed
    obtain ⟨-, index, info, later, faster, best, behind, found, -, less⟩ := listed
    have inside : later < 2 := (List.getElem?_eq_some_iff.mp found).1
    obtain ⟨rfl, rfl⟩ : index = 0 ∧ later = 1 := by
      omega
    cases best.here
    cases found
    exact absurd less (by decide)

/-- The slower of two profiles is selected. -/
theorem configureCamera_misses_fps :
    ¬ PrefersFps slowFirst.profiles
      ((configureCamera 1080 .mjpeg 3).run
        (slowFirst.camera unsetInfo) []).2 := by
  intro prefers
  have selected : (configureCamera 1080 .mjpeg 3).run
      (slowFirst.camera unsetInfo) [] =
        (some .rcOk, enumerated (slowFirst.camera unsetInfo) 0 3 ++
          [⟨.cameraSelectProfile 0, .rcOk⟩]) := rfl
  rw [selected] at prefers
  have limit := prefers 0 .rcOk (List.mem_append_right _ List.mem_cons_self) _
    rfl _ (List.mem_cons_of_mem _ List.mem_cons_self) ⟨rfl, rfl, rfl⟩
  exact absurd limit (by decide)

end KosCeExtra.Camera
