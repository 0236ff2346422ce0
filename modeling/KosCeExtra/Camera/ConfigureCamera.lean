import KosCeExtra.Camera.JpegSize
import KosCeExtra.Library.Dialogue
import KosCeExtra.Library.FirstBest
import Mathlib.Data.Nat.Basic

/-!
# The choice of a camera profile

A transcription of `ConfigureCamera` from
`examples/uvc_camera_stills/client/src/main.c`.  The camera reports its profiles
one by one, by an index that is an `unsigned int`, and the loop ends at the first
return code other than `rcOk`.  Nothing in the function bounds the loop, so the
model makes a number of attempts, and comes to a result with every number that is
enough.  The handle of the camera and the log output are left out.
-/

namespace KosCeExtra.Camera

open Dialogue

/-- `CAMERA_PIX_FMT_*` -/
inductive CameraPixelFormat where
  | mjpeg
  | yuyv
  | other (code : Nat)
  deriving DecidableEq, Repr

/-- The fields of `CameraInfo` that the program reads, with `fps` as it is printed. -/
structure CameraInfo where
  pFmt : CameraPixelFormat
  resX : UInt32
  resY : UInt32
  bpp : UInt32
  fps : Int
  deriving DecidableEq, Repr

inductive Call where
  | cameraEnumProfiles (index : UInt32)
  | cameraSelectProfile (index : UInt32)
  deriving DecidableEq, Repr

abbrev Reply : Call → Type
  | .cameraEnumProfiles _ => Retcode × CameraInfo
  | .cameraSelectProfile _ => Retcode

abbrev Record := List (Exchange Call Reply)

/-- The variables of the loop. -/
structure Scan where
  i : UInt32
  bestProfileIdx : Int
  bestHeight : Nat
  deriving DecidableEq, Repr

def Scan.start : Scan where
  i := 0
  bestProfileIdx := -1
  bestHeight := 0

/-- The body of the loop. -/
def Scan.consider (height : Nat) (pFmt : CameraPixelFormat) (scan : Scan)
    (info : CameraInfo) : Scan :=
  if info.pFmt = pFmt then
    if info.resY.toNat ≤ height ∧ info.resY.toNat > scan.bestHeight then
      { i := scan.i + 1
        bestProfileIdx := scan.i.toNat
        bestHeight := info.resY.toNat }
    else
      { scan with i := scan.i + 1 }
  else
    { scan with i := scan.i + 1 }

/-- One turn of the loop, which ends with the code that is not `rcOk`. -/
def scanTurn (height : Nat) (pFmt : CameraPixelFormat) (scan : Scan)
    (reply : Retcode × CameraInfo) : Scan ⊕ Retcode × Scan :=
  if reply.1 = .rcOk then
    .inl (scan.consider height pFmt reply.2)
  else
    .inr (reply.1, scan)

def scanProfiles (height : Nat) (pFmt : CameraPixelFormat) (attempts : Nat)
    (scan : Scan) : Dialogue Call Reply (Option (Retcode × Scan)) :=
  retry (fun scan => .cameraEnumProfiles scan.i) (scanTurn height pFmt)
    attempts scan

def configureCamera (height : Nat) (pFmt : CameraPixelFormat)
    (attempts : Nat) : Dialogue Call Reply (Option Retcode) := do
  match ← scanProfiles height pFmt attempts Scan.start with
  | none => pure none
  | some (rc, scan) =>
      if rc ≠ .rcResourceNotFound then
        pure (some rc)
      else if scan.bestProfileIdx = -1 then
        pure (some .rcResourceNotFound)
      else do
        -- `(unsigned int)bestProfileIdx`
        let code ← ask (.cameraSelectProfile (UInt32.ofInt scan.bestProfileIdx))
        pure (some code)

/-- What `CameraEnumProfiles` reports: the profiles from index zero on, and the code
at the index behind them. -/
structure Enumeration where
  profiles : List CameraInfo
  ending : Retcode
  ends : ending ≠ .rcOk
  indexed : profiles.length < UInt32.size

/-- The replies to the calls that ask for the indices in turn. -/
structure Enumeration.ReportedBy (enumeration : Enumeration)
    (world : World Call Reply) : Prop where
  profile : ∀ index info, enumeration.profiles[index]? = some info →
    world index (.cameraEnumProfiles (UInt32.ofNat index)) = (.rcOk, info)
  ending : (world enumeration.profiles.length (.cameraEnumProfiles
    (UInt32.ofNat enumeration.profiles.length))).1 = enumeration.ending

/-- The calls for `count` indices from `start` on. -/
def enumerated (world : World Call Reply) (start count : Nat) : Record :=
  (List.range' start count).map fun index =>
    ⟨.cameraEnumProfiles (UInt32.ofNat index),
      world index (.cameraEnumProfiles (UInt32.ofNat index))⟩

/-- A profile of the format, within the limit. -/
def Admissible (height : Nat) (pFmt : CameraPixelFormat) (info : CameraInfo) :
    Prop :=
  info.pFmt = pFmt ∧ 0 < info.resY.toNat ∧ info.resY.toNat ≤ height

/-- The first of the tallest admissible profiles. -/
abbrev IsBestProfile (height : Nat) (pFmt : CameraPixelFormat)
    (profiles : List CameraInfo) (index : Nat) (info : CameraInfo) : Prop :=
  IsFirstBest (Admissible height pFmt) (fun info => info.resY.toNat) profiles
    index info

private theorem ofInt_natCast (index : Nat) :
    UInt32.ofInt (index : Int) = UInt32.ofNat index := by
  have wrapped : ((index : Int) % 2 ^ 32).toNat = index % UInt32.size := by
    rw [UInt32.size]
    omega
  rw [UInt32.ofInt, wrapped, UInt32.ofNat_mod_size]

/-- What the variables hold behind the profiles that the loop has read. -/
structure Scan.Covers (height : Nat) (pFmt : CameraPixelFormat)
    (profiles : List CameraInfo) (scan : Scan) : Prop where
  i : scan.i = UInt32.ofNat profiles.length
  best : (scan.bestProfileIdx = -1 ∧ scan.bestHeight = 0 ∧
      ∀ info ∈ profiles, ¬ Admissible height pFmt info) ∨
    ∃ index info, IsBestProfile height pFmt profiles index info ∧
      scan.bestProfileIdx = (index : Int) ∧
      scan.bestHeight = info.resY.toNat

section Scan

variable {height : Nat} {pFmt : CameraPixelFormat} {profiles : List CameraInfo}
  {scan : Scan} {info : CameraInfo}

private theorem covers_start : Scan.start.Covers height pFmt [] where
  i := rfl
  best := by
    left
    refine ⟨rfl, rfl, ?_⟩
    intro info impossible
    cases impossible

theorem Scan.consider_taller (admissible : Admissible height pFmt info)
    (taller : scan.bestHeight < info.resY.toNat) :
    scan.consider height pFmt info =
      { i := scan.i + 1
        bestProfileIdx := scan.i.toNat
        bestHeight := info.resY.toNat } := by
  obtain ⟨format, -, limit⟩ := admissible
  rw [Scan.consider, if_pos format, if_pos ⟨limit, taller⟩]

private theorem Scan.consider_other
    (noTaller : Admissible height pFmt info →
      info.resY.toNat ≤ scan.bestHeight) :
    scan.consider height pFmt info = { scan with i := scan.i + 1 } := by
  rw [Scan.consider]
  by_cases format : info.pFmt = pFmt
  · rw [if_pos format, if_neg]
    rintro ⟨limit, taller⟩
    have positive : 0 < info.resY.toNat := Nat.zero_lt_of_lt taller
    exact Nat.not_le.mpr taller (noTaller ⟨format, positive, limit⟩)
  · rw [if_neg format]

/-- The body of the loop keeps the first of the tallest admissible profiles. -/
theorem Scan.Covers.consider (covers : scan.Covers height pFmt profiles)
    (indexed : profiles.length < UInt32.size) (info : CameraInfo) :
    (scan.consider height pFmt info).Covers height pFmt
      (profiles ++ [info]) := by
  have next : scan.i + 1 = UInt32.ofNat (profiles ++ [info]).length := by
    rw [covers.i, List.length_append, List.length_singleton, UInt32.ofNat_add]
    rfl
  have place : scan.i.toNat = profiles.length := by
    rw [covers.i, UInt32.toNat_ofNat_of_lt' indexed]
  by_cases kept : Admissible height pFmt info ∧
      scan.bestHeight < info.resY.toNat
  · obtain ⟨admissible, taller⟩ := kept
    rw [Scan.consider_taller admissible taller, place]
    refine ⟨next, .inr ⟨profiles.length, info, ?_, rfl, rfl⟩⟩
    apply isFirstBest_concat admissible
    intro other member otherAdmissible
    rcases covers.best with ⟨-, -, none⟩ | ⟨index, found, best, -, same⟩
    · exact absurd otherAdmissible (none other member)
    · rw [same] at taller
      exact Nat.lt_of_le_of_lt (best.greatest other member otherAdmissible)
        taller
  · have noTaller : Admissible height pFmt info →
        info.resY.toNat ≤ scan.bestHeight := by
      intro admissible
      exact Nat.not_lt.mp fun taller => kept ⟨admissible, taller⟩
    rw [Scan.consider_other noTaller]
    refine ⟨next, ?_⟩
    rcases covers.best with ⟨unset, low, none⟩ | ⟨index, found, best, set, same⟩
    · left
      refine ⟨unset, low, ?_⟩
      intro other member
      rcases List.mem_append.mp member with old | new
      · exact none other old
      · rw [List.mem_singleton.mp new]
        intro admissible
        have flat := noTaller admissible
        rw [low] at flat
        exact Nat.not_le.mpr admissible.2.1 flat
    · right
      refine ⟨index, found, best.concat ?_, set, same⟩
      intro admissible
      rw [← same]
      exact noTaller admissible

end Scan

section Run

variable {enumeration : Enumeration} {world : World Call Reply} {height : Nat}
  {pFmt : CameraPixelFormat} {attempts : Nat}

theorem run_scanProfiles_rcOk {scan : Scan} {record : Record}
    {info : CameraInfo}
    (reply : world record.length (.cameraEnumProfiles scan.i) =
      (.rcOk, info)) :
    (scanProfiles height pFmt (attempts + 1) scan).run world record =
      (scanProfiles height pFmt attempts
        (scan.consider height pFmt info)).run world
          (record ++ [⟨.cameraEnumProfiles scan.i,
            world record.length (.cameraEnumProfiles scan.i)⟩]) := by
  rw [scanProfiles, run_retry_succ, scanTurn, reply, if_pos rfl]
  rfl

private theorem run_scanProfiles_ending {scan : Scan} {record : Record}
    (ends : (world record.length (.cameraEnumProfiles scan.i)).1 ≠ .rcOk) :
    (scanProfiles height pFmt (attempts + 1) scan).run world record =
      (some ((world record.length (.cameraEnumProfiles scan.i)).1, scan),
        record ++ [⟨.cameraEnumProfiles scan.i,
          world record.length (.cameraEnumProfiles scan.i)⟩]) := by
  rw [scanProfiles, run_retry_succ, scanTurn, if_neg ends]

/-- The loop reads the profiles behind `front` and ends with the code at the index
behind the last one. -/
theorem run_scanProfiles (reported : enumeration.ReportedBy world)
    {front rest : List CameraInfo} {scan : Scan} {record : Record}
    (split : enumeration.profiles = front ++ rest)
    (position : record.length = front.length)
    (covers : scan.Covers height pFmt front)
    (enough : rest.length < attempts) :
    ∃ last, last.Covers height pFmt enumeration.profiles ∧
      (scanProfiles height pFmt attempts scan).run world record =
        (some (enumeration.ending, last),
          record ++ enumerated world front.length (rest.length + 1)) := by
  obtain ⟨attempts, rfl⟩ :=
    Nat.exists_eq_succ_of_ne_zero (Nat.ne_zero_of_lt enough)
  induction rest generalizing front scan record attempts with
  | nil =>
      rw [List.append_nil] at split
      have code := reported.ending
      rw [split, ← covers.i, ← position] at code
      refine ⟨scan, split ▸ covers, ?_⟩
      rw [run_scanProfiles_ending (code ▸ enumeration.ends), code, covers.i,
        position]
      rfl
  | cons info rest induction =>
      obtain ⟨attempts, rfl⟩ := Nat.exists_eq_succ_of_ne_zero
        (Nat.ne_zero_of_lt (Nat.lt_of_succ_lt_succ enough))
      have indexed : front.length < UInt32.size := by
        apply Nat.lt_of_le_of_lt _ enumeration.indexed
        rw [split, List.length_append]
        exact Nat.le_add_right _ _
      have found : enumeration.profiles[front.length]? = some info := by
        rw [split, List.getElem?_append_right (Nat.le_refl _), Nat.sub_self]
        rfl
      have reply := reported.profile front.length info found
      rw [← covers.i, ← position] at reply
      have splitNext : enumeration.profiles = (front ++ [info]) ++ rest := by
        rw [split, List.append_assoc, List.singleton_append]
      have positionNext : (record ++ [(⟨.cameraEnumProfiles scan.i,
          world record.length (.cameraEnumProfiles scan.i)⟩ :
            Exchange Call Reply)]).length = (front ++ [info]).length := by
        rw [List.length_append, List.length_append, position]
        rfl
      obtain ⟨last, lastCovers, ran⟩ := induction splitNext positionNext
        (covers.consider indexed info) attempts (Nat.lt_of_succ_lt_succ enough)
      refine ⟨last, lastCovers, ?_⟩
      rw [run_scanProfiles_rcOk reply, ran, List.append_assoc,
        List.length_append, List.length_singleton, List.length_cons,
        covers.i, position]
      rfl

theorem run_scanProfiles_start (reported : enumeration.ReportedBy world)
    (enough : enumeration.profiles.length < attempts) (height : Nat)
    (pFmt : CameraPixelFormat) :
    ∃ last, last.Covers height pFmt enumeration.profiles ∧
      (scanProfiles height pFmt attempts Scan.start).run world [] =
        (some (enumeration.ending, last),
          enumerated world 0 (enumeration.profiles.length + 1)) :=
  run_scanProfiles reported rfl rfl covers_start enough

theorem run_configureCamera_failed (reported : enumeration.ReportedBy world)
    (enough : enumeration.profiles.length < attempts)
    (failed : enumeration.ending ≠ .rcResourceNotFound) :
    (configureCamera height pFmt attempts).run world [] =
      (some enumeration.ending,
        enumerated world 0 (enumeration.profiles.length + 1)) := by
  obtain ⟨last, -, ran⟩ := run_scanProfiles_start reported enough height pFmt
  rw [configureCamera, run_bind, ran]
  simp only
  rw [if_pos failed, run_pure]

/-- At the end of the profiles, the first of the tallest admissible ones is
selected, if there is one. -/
theorem run_configureCamera_ended (reported : enumeration.ReportedBy world)
    (enough : enumeration.profiles.length < attempts)
    (ended : enumeration.ending = .rcResourceNotFound) :
    ((∀ info ∈ enumeration.profiles, ¬ Admissible height pFmt info) ∧
      (configureCamera height pFmt attempts).run world [] =
        (some .rcResourceNotFound,
          enumerated world 0 (enumeration.profiles.length + 1))) ∨
    ∃ index info code,
      IsBestProfile height pFmt enumeration.profiles index info ∧
      (configureCamera height pFmt attempts).run world [] =
        (some code, enumerated world 0 (enumeration.profiles.length + 1) ++
          [⟨.cameraSelectProfile (UInt32.ofNat index), code⟩]) := by
  obtain ⟨last, covers, ran⟩ :=
    run_scanProfiles_start reported enough height pFmt
  rw [configureCamera, run_bind, ran]
  simp only
  rw [if_neg (not_not.mpr ended)]
  rcases covers.best with ⟨unset, -, none⟩ | ⟨index, info, best, set, -⟩
  · left
    rw [if_pos unset, run_pure]
    exact ⟨none, rfl⟩
  · right
    have chosen : last.bestProfileIdx ≠ -1 := by
      omega
    rw [if_neg chosen, set, ofInt_natCast, run_bind, run_ask, run_pure]
    exact ⟨index, info, _, best, rfl⟩

end Run

/-- `ConfigureCamera` hands on the code of an enumeration that failed.  At the end
of the profiles it makes one call, which selects the first of the tallest profiles
of the format within the limit, and returns the code of that call; without such a
profile it selects nothing. -/
theorem configureCamera_selects_best (enumeration : Enumeration) (height : Nat)
    (pFmt : CameraPixelFormat) (world : World Call Reply)
    (reported : enumeration.ReportedBy world) (attempts : Nat)
    (enough : enumeration.profiles.length < attempts) :
    (enumeration.ending ≠ .rcResourceNotFound →
      (configureCamera height pFmt attempts).run world [] =
        (some enumeration.ending,
          enumerated world 0 (enumeration.profiles.length + 1))) ∧
    (enumeration.ending = .rcResourceNotFound →
      (∀ info ∈ enumeration.profiles, ¬ Admissible height pFmt info) →
      (configureCamera height pFmt attempts).run world [] =
        (some .rcResourceNotFound,
          enumerated world 0 (enumeration.profiles.length + 1))) ∧
    (enumeration.ending = .rcResourceNotFound →
      (∃ info ∈ enumeration.profiles, Admissible height pFmt info) →
      ∃ index info code,
        IsBestProfile height pFmt enumeration.profiles index info ∧
        (configureCamera height pFmt attempts).run world [] =
          (some code, enumerated world 0 (enumeration.profiles.length + 1) ++
            [⟨.cameraSelectProfile (UInt32.ofNat index), code⟩])) := by
  refine ⟨run_configureCamera_failed reported enough, ?_, ?_⟩
  · intro ended none
    rcases run_configureCamera_ended reported enough ended with
      ⟨-, ran⟩ | ⟨index, info, code, best, -⟩
    · exact ran
    · have member := List.mem_of_getElem? best.here
      exact absurd best.admissible (none info member)
  · intro ended some
    obtain ⟨info, member, admissible⟩ := some
    rcases run_configureCamera_ended reported enough ended with
      ⟨none, -⟩ | chosen
    · exact absurd admissible (none info member)
    · exact chosen

/-- A camera with the profiles of an enumeration, which can all be selected. -/
def Enumeration.camera (enumeration : Enumeration) (unset : CameraInfo) :
    World Call Reply := fun _ call =>
  match call with
  | .cameraEnumProfiles index =>
      match enumeration.profiles[index.toNat]? with
      | some info => (.rcOk, info)
      | none => (enumeration.ending, unset)
  | .cameraSelectProfile _ => .rcOk

theorem Enumeration.reportedBy_camera (enumeration : Enumeration)
    (unset : CameraInfo) :
    enumeration.ReportedBy (enumeration.camera unset) where
  profile := by
    intro index info found
    have inside := (List.getElem?_eq_some_iff.mp found).1
    have indexed := Nat.lt_trans inside enumeration.indexed
    simp only [camera, UInt32.toNat_ofNat_of_lt' indexed, found]
  ending := by
    simp only [camera, UInt32.toNat_ofNat_of_lt' enumeration.indexed,
      List.getElem?_eq_none (Nat.le_refl _)]

/-- `1920x1080@15` before `1920x1080@30`. -/
def slowFirst : Enumeration where
  profiles :=
    [{ pFmt := .mjpeg, resX := 1920, resY := 1080, bpp := 0, fps := 15 },
      { pFmt := .mjpeg, resX := 1920, resY := 1080, bpp := 0, fps := 30 }]
  ending := .rcResourceNotFound
  ends := by decide
  indexed := by decide

def unsetInfo : CameraInfo where
  pFmt := .other 0
  resX := 0
  resY := 0
  bpp := 0
  fps := 0

theorem configureCamera_selects_slowFirst :
    ∃ index info code,
      IsBestProfile 1080 .mjpeg slowFirst.profiles index info ∧
      (configureCamera 1080 .mjpeg 3).run (slowFirst.camera unsetInfo) [] =
        (some code, enumerated (slowFirst.camera unsetInfo) 0 3 ++
          [⟨.cameraSelectProfile (UInt32.ofNat index), code⟩]) := by
  apply (configureCamera_selects_best slowFirst 1080 .mjpeg
    (slowFirst.camera unsetInfo) (slowFirst.reportedBy_camera unsetInfo) 3
    (by decide)).2.2 rfl
  refine ⟨_, List.mem_cons_self, rfl, ?_, ?_⟩
  · decide
  · decide

end KosCeExtra.Camera
