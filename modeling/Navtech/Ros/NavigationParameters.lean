/-
  Is every parameter of `Navigation_mode_point_cloud_publisher` applied by itself?

  `check_config_publish` reads nine parameters. Those of the window go through the refresh of
  `Ros.Parameters`; the other four configure the navigation mode, in the radar or in the
  publisher, and are looked at only if they differ from their members.

  Eight fields depend on the parameter of their own name alone. The end bin is checked, and then
  the end azimuth is stored for it. So the field is applied only where the two come to the same
  number, and a change of the end azimuth shows in two fields (`applied_independently_iff`). A
  parameter that is not an `int` is cut off before it is checked.
-/
import Navtech.Ros.PointCloud

namespace Navtech

namespace Ros

/-- The parameters that configure the navigation mode. -/
structure NavigationParameters where
  binsToOperateOn : Int64
  minBin : Int64
  powerThreshold : ExtRat
  maxPeaksPerAzimuth : Int64
deriving DecidableEq, Repr

/-- The members that go by their names. -/
structure NavigationMembers where
  binsToOperateOn : UInt16
  minBin : UInt16
  powerThreshold : ExtRat
  maxPeaksPerAzimuth : UInt32
deriving DecidableEq, Repr

/-- The publisher with all that `check_config_publish` uses. -/
structure NavigationModeNode extends NavigationModePointCloudPublisher where
  navigationParameters : NavigationParameters
  navigation : NavigationMembers
  processLocally : Bool
deriving DecidableEq, Repr

namespace NavigationModeNode

/-- What `check_config_publish` asks others to do. -/
inductive Effect where
  | publishConfiguration
  /-- `update_local_navigation_config`. -/
  | configurePeakFinder (navigation : NavigationMembers)
  /-- `update_navigation_config`. -/
  | setNavigationConfiguration (navigation : NavigationMembers)
  | requestNavigationConfiguration
deriving DecidableEq, Repr

/-- A parameter is read, if it differs from its member, which is `value` as a number. The last
    part says that it does. -/
def refreshedIfChanged {α : Type} (valid : Int → Bool) (fallback : Int64) (store : Int → α)
    (value : Int) (parameter : Int64) (member : α) : α × Int64 × Bool :=
  if parameter.toInt ≠ value then
    if valid (temp parameter) then (store (temp parameter), parameter, true)
    else (member, fallback, true)
  else (member, parameter, false)

/-- `!=` of two `double`s. -/
def differ : ExtRat → ExtRat → Bool
  | .nan, _ => true
  | x, y => decide (x ≠ y)

/-- The power threshold, which is not an integer. An invalid one is set back to a quarter of the
    greatest. -/
def refreshedThreshold (parameter member : ExtRat) : ExtRat × ExtRat × Bool :=
  if differ parameter member then
    if parameter.lt 0 || parameter.gt 255 then (member, .finite (255 / 4 : Nat), true)
    else (parameter, parameter, true)
  else (member, parameter, false)

/-- The parameters of the navigation mode are read. -/
def refreshNavigationMode (rangeInBins : UInt16) (p : NavigationParameters)
    (m : NavigationMembers) : NavigationParameters × NavigationMembers × Bool :=
  let binsToOperateOn := refreshedIfChanged (within 10) (ofMember m.binsToOperateOn)
    UInt16.ofInt m.binsToOperateOn.toNat p.binsToOperateOn m.binsToOperateOn
  let minBin := refreshedIfChanged (within rangeInBins) (ofMember m.minBin)
    UInt16.ofInt m.minBin.toNat p.minBin m.minBin
  let powerThreshold := refreshedThreshold p.powerThreshold m.powerThreshold
  let maxPeaksPerAzimuth := refreshedIfChanged (within 5) 5
    UInt32.ofInt m.maxPeaksPerAzimuth.toNat p.maxPeaksPerAzimuth m.maxPeaksPerAzimuth
  (⟨binsToOperateOn.2.1, minBin.2.1, powerThreshold.2.1, maxPeaksPerAzimuth.2.1⟩,
    ⟨binsToOperateOn.1, minBin.1, powerThreshold.1, maxPeaksPerAzimuth.1⟩,
    binsToOperateOn.2.2 || minBin.2.2 || powerThreshold.2.2 || maxPeaksPerAzimuth.2.2)

/-- `check_config_publish`: the window first, then the mode; the radar and the peak finder are
    told if something of the mode has changed. -/
def checkConfigPublish (st : NavigationModeNode) : NavigationModeNode × List Effect :=
  if st.rotationCount ≥ configPublishCount then
    let mode := refreshNavigationMode st.rangeInBins st.navigationParameters st.navigation
    ({ st with
        toNavigationModePointCloudPublisher := st.toNavigationModePointCloudPublisher.refresh
        navigationParameters := mode.1
        navigation := mode.2.1 },
      .publishConfiguration ::
        if mode.2.2 then
          if st.processLocally then [.configurePeakFinder mode.2.1]
          else [.setNavigationConfiguration mode.2.1, .requestNavigationConfiguration]
        else [])
  else (st, [])

/-! ## One field -/

/-- The field is set to a valid parameter, and left as it was by any other. -/
structure Applied (bound : UInt16) (parameter : Int64) (before after : UInt16) : Prop where
  of_valid : within bound parameter.toInt = true → (after.toNat : Int) = parameter.toInt
  of_not_valid : ¬ within bound parameter.toInt = true → after = before

/-- A parameter that is not valid, but is once it is cut off, comes to what is there. -/
def CutOff (bound : UInt16) (parameter : Int64) (member : UInt16) : Prop :=
  within bound (temp parameter) = true → ¬ within bound parameter.toInt = true →
    UInt16.ofInt (temp parameter) = member

/-- The start of the window and the end azimuth. -/
structure Applies (st : NavigationModeNode) : Prop where
  startAzimuth : Applied st.azimuthSamples st.parameters.startAzimuth st.window.startAzimuth
    st.checkConfigPublish.1.window.startAzimuth
  endAzimuth : Applied st.azimuthSamples st.parameters.endAzimuth st.window.endAzimuth
    st.checkConfigPublish.1.window.endAzimuth
  startBin : Applied st.rangeInBins st.parameters.startBin st.window.startBin
    st.checkConfigPublish.1.window.startBin
  endBin : Applied st.rangeInBins st.parameters.endBin st.window.endBin
    st.checkConfigPublish.1.window.endBin

variable {bound member : UInt16} {parameter fallback : Int64} {taken : Int}
  {st : NavigationModeNode}

/-- A valid parameter is not cut off. -/
theorem temp_of_within (h : within bound parameter.toInt = true) :
    temp parameter = parameter.toInt := by
  obtain ⟨hpos, hle⟩ := within_iff.mp h
  have hlt := bound.toNat_lt
  rw [temp, Int64.toInt_toInt32]
  exact Int.bmod_eq_of_le (by omega) (by omega)

/-- The field of a parameter for which `taken` is stored. -/
theorem applied_refreshed_iff :
    Applied bound parameter member (refreshed (within bound) fallback parameter taken member).1 ↔
      (within bound (temp parameter) = true →
        (within bound parameter.toInt = true →
          ((UInt16.ofInt taken).toNat : Int) = parameter.toInt) ∧
        (¬ within bound parameter.toInt = true → UInt16.ofInt taken = member)) := by
  by_cases haccepted : within bound (temp parameter) = true
  · rw [refreshed_of_valid haccepted, forall_prop_of_true haccepted]
    exact ⟨fun h => ⟨h.of_valid, h.of_not_valid⟩, fun h => ⟨h.1, h.2⟩⟩
  · rw [refreshed_of_not_valid haccepted]
    refine iff_of_true ⟨fun hvalid => ?_, fun _ => rfl⟩ fun h => absurd h haccepted
    rw [← temp_of_within hvalid] at hvalid
    exact absurd hvalid haccepted

/-- The field of a parameter that is stored as it is. -/
theorem applied_refreshed_self_iff :
    Applied bound parameter member
        (refreshed (within bound) fallback parameter (temp parameter) member).1 ↔
      CutOff bound parameter member := by
  rw [applied_refreshed_iff, CutOff]
  refine forall_congr' fun haccepted => ⟨And.right, fun h => ⟨fun hvalid => ?_, h⟩⟩
  rw [toNat_ofInt_of_within haccepted, temp_of_within hvalid]

theorem window_checkConfigPublish (h : st.rotationCount ≥ configPublishCount) :
    st.checkConfigPublish.1.window =
      (refreshNavigation st.azimuthSamples st.rangeInBins st.parameters st.window).2 := by
  rw [checkConfigPublish, if_pos h]
  rfl

theorem navigation_checkConfigPublish (h : st.rotationCount ≥ configPublishCount) :
    st.checkConfigPublish.1.navigation =
      (refreshNavigationMode st.rangeInBins st.navigationParameters st.navigation).2.1 := by
  rw [checkConfigPublish, if_pos h]

theorem applies_iff (h : st.rotationCount ≥ configPublishCount) :
    st.Applies ↔
      CutOff st.azimuthSamples st.parameters.startAzimuth st.window.startAzimuth ∧
      CutOff st.azimuthSamples st.parameters.endAzimuth st.window.endAzimuth ∧
      CutOff st.rangeInBins st.parameters.startBin st.window.startBin ∧
      (within st.rangeInBins (temp st.parameters.endBin) = true →
        (within st.rangeInBins st.parameters.endBin.toInt = true →
          ((UInt16.ofInt (temp st.parameters.endAzimuth)).toNat : Int) =
            st.parameters.endBin.toInt) ∧
        (¬ within st.rangeInBins st.parameters.endBin.toInt = true →
          UInt16.ofInt (temp st.parameters.endAzimuth) = st.window.endBin)) := by
  have hwindow := window_checkConfigPublish h
  constructor
  · intro happlies
    have hstart := happlies.startAzimuth
    have hend := happlies.endAzimuth
    have hstartBin := happlies.startBin
    have hendBin := happlies.endBin
    rw [hwindow] at hstart hend hstartBin hendBin
    exact ⟨applied_refreshed_self_iff.mp hstart, applied_refreshed_self_iff.mp hend,
      applied_refreshed_self_iff.mp hstartBin, applied_refreshed_iff.mp hendBin⟩
  · rintro ⟨hstart, hend, hstartBin, hendBin⟩
    refine ⟨?_, ?_, ?_, ?_⟩ <;> rw [hwindow]
    · exact applied_refreshed_self_iff.mpr hstart
    · exact applied_refreshed_self_iff.mpr hend
    · exact applied_refreshed_self_iff.mpr hstartBin
    · exact applied_refreshed_iff.mpr hendBin

/-! ## Two assignments -/

inductive Name where
  | startAzimuth | endAzimuth | startBin | endBin | azimuthOffset
  | binsToOperateOn | minBin | powerThreshold | maxPeaksPerAzimuth
deriving DecidableEq, Repr

structure Assignment extends WindowParameters, NavigationParameters

/-- The two assignments give the parameter the same value. -/
def Assignment.Agree (a b : Assignment) : Name → Prop
  | .startAzimuth => a.startAzimuth = b.startAzimuth
  | .endAzimuth => a.endAzimuth = b.endAzimuth
  | .startBin => a.startBin = b.startBin
  | .endBin => a.endBin = b.endBin
  | .azimuthOffset => a.azimuthOffset = b.azimuthOffset
  | .binsToOperateOn => a.binsToOperateOn = b.binsToOperateOn
  | .minBin => a.minBin = b.minBin
  | .powerThreshold => a.powerThreshold = b.powerThreshold
  | .maxPeaksPerAzimuth => a.maxPeaksPerAzimuth = b.maxPeaksPerAzimuth

/-- The field of the name is the same. -/
def SameField (st st' : NavigationModeNode) : Name → Prop
  | .startAzimuth => st.window.startAzimuth = st'.window.startAzimuth
  | .endAzimuth => st.window.endAzimuth = st'.window.endAzimuth
  | .startBin => st.window.startBin = st'.window.startBin
  | .endBin => st.window.endBin = st'.window.endBin
  | .azimuthOffset => st.window.azimuthOffset = st'.window.azimuthOffset
  | .binsToOperateOn => st.navigation.binsToOperateOn = st'.navigation.binsToOperateOn
  | .minBin => st.navigation.minBin = st'.navigation.minBin
  | .powerThreshold => st.navigation.powerThreshold = st'.navigation.powerThreshold
  | .maxPeaksPerAzimuth => st.navigation.maxPeaksPerAzimuth = st'.navigation.maxPeaksPerAzimuth

/-- The user has set the parameters. -/
def assign (st : NavigationModeNode) (a : Assignment) : NavigationModeNode :=
  { st with
    parameters := a.toWindowParameters
    navigationParameters := a.toNavigationParameters }

/-- If the assignments differ in the one parameter only, the fields do. -/
def OnlyOwnField (st : NavigationModeNode) (a b : Assignment) (name : Name) : Prop :=
  (∀ other, other ≠ name → a.Agree b other) →
    ∀ other, other ≠ name →
      (st.assign a).checkConfigPublish.1.SameField (st.assign b).checkConfigPublish.1 other

variable {a b : Assignment}

/-- All fields but the end bin depend on their own parameter. -/
theorem sameField_of_agree (h : st.rotationCount ≥ configPublishCount) {name : Name}
    (hname : name ≠ .endBin) (hagree : a.Agree b name) :
    (st.assign a).checkConfigPublish.1.SameField (st.assign b).checkConfigPublish.1 name := by
  have ha : (st.assign a).rotationCount ≥ configPublishCount := h
  have hb : (st.assign b).rotationCount ≥ configPublishCount := h
  cases name with
  | endBin => exact absurd rfl hname
  | startAzimuth | endAzimuth | startBin | azimuthOffset =>
    rw [SameField, window_checkConfigPublish ha, window_checkConfigPublish hb]
    simp only [Assignment.Agree] at hagree
    simp only [refreshNavigation, refreshWith, assign, hagree]
  | binsToOperateOn | minBin | powerThreshold | maxPeaksPerAzimuth =>
    rw [SameField, navigation_checkConfigPublish ha, navigation_checkConfigPublish hb]
    simp only [Assignment.Agree] at hagree
    simp only [refreshNavigationMode, assign, hagree]

/-- The end bin depends on the end azimuth too. -/
theorem sameField_endBin_iff (h : st.rotationCount ≥ configPublishCount)
    (hagree : a.Agree b .endBin) :
    (st.assign a).checkConfigPublish.1.SameField (st.assign b).checkConfigPublish.1 .endBin ↔
      (within st.rangeInBins (temp a.endBin) = true →
        UInt16.ofInt (temp a.endAzimuth) = UInt16.ofInt (temp b.endAzimuth)) := by
  have ha : (st.assign a).rotationCount ≥ configPublishCount := h
  have hb : (st.assign b).rotationCount ≥ configPublishCount := h
  have hendBin : a.endBin = b.endBin := hagree
  rw [SameField, window_checkConfigPublish ha, window_checkConfigPublish hb]
  simp only [refreshNavigation, refreshWith, assign, ← hendBin]
  by_cases hvalid : within st.rangeInBins (temp a.endBin) = true
  · rw [refreshed_of_valid hvalid, refreshed_of_valid hvalid, forall_prop_of_true hvalid]
  · rw [refreshed_of_not_valid hvalid, refreshed_of_not_valid hvalid]
    exact iff_of_true rfl fun hv => absurd hv hvalid

theorem onlyOwnField_iff (h : st.rotationCount ≥ configPublishCount) (name : Name) :
    st.OnlyOwnField a b name ↔
      ((∀ other, other ≠ name → a.Agree b other) → name = .endAzimuth →
        within st.rangeInBins (temp a.endBin) = true →
        UInt16.ofInt (temp a.endAzimuth) = UInt16.ofInt (temp b.endAzimuth)) := by
  refine forall_congr' fun hagree => ⟨?_, ?_⟩
  · rintro hsame rfl
    have hendBin : Name.endBin ≠ .endAzimuth := by decide
    exact (sameField_endBin_iff h (hagree _ hendBin)).mp (hsame _ hendBin)
  · intro hsame other hother
    by_cases hendBin : other = .endBin
    · subst hendBin
      refine (sameField_endBin_iff h (hagree _ hother)).mpr fun hvalid => ?_
      by_cases hname : name = .endAzimuth
      · exact hsame hname hvalid
      · have hazimuth : a.endAzimuth = b.endAzimuth := hagree .endAzimuth (Ne.symm hname)
        rw [hazimuth]
    · exact sameField_of_agree h hendBin (hagree other hother)

/-- **Each parameter by itself.** The first three fields are applied, unless they are cut off;
    the end bin is where the end azimuth comes to the same. Between two assignments that differ
    in one parameter, its field alone differs, unless it is the end azimuth that is stored for
    the end bin too. -/
theorem applied_independently_iff (st : NavigationModeNode)
    (h : st.rotationCount ≥ configPublishCount) :
    (st.Applies ↔
      CutOff st.azimuthSamples st.parameters.startAzimuth st.window.startAzimuth ∧
      CutOff st.azimuthSamples st.parameters.endAzimuth st.window.endAzimuth ∧
      CutOff st.rangeInBins st.parameters.startBin st.window.startBin ∧
      (within st.rangeInBins (temp st.parameters.endBin) = true →
        (within st.rangeInBins st.parameters.endBin.toInt = true →
          ((UInt16.ofInt (temp st.parameters.endAzimuth)).toNat : Int) =
            st.parameters.endBin.toInt) ∧
        (¬ within st.rangeInBins st.parameters.endBin.toInt = true →
          UInt16.ofInt (temp st.parameters.endAzimuth) = st.window.endBin))) ∧
    ∀ a b name, st.OnlyOwnField a b name ↔
      ((∀ other, other ≠ name → a.Agree b other) → name = .endAzimuth →
        within st.rangeInBins (temp a.endBin) = true →
        UInt16.ofInt (temp a.endAzimuth) = UInt16.ofInt (temp b.endAzimuth)) :=
  ⟨applies_iff h, fun _ _ name => onlyOwnField_iff h name⟩

/-- Four azimuths and two bins, all in the window, and four rotations are over. -/
def fourRotations : NavigationModeNode where
  toNavigationModePointCloudPublisher :=
    { (NavigationModePointCloudPublisher.initial wideOpen).configurationDataHandler fourByTwo with
      rotationCount := 4 }
  navigationParameters := ⟨0, 0, .finite 0, 0⟩
  navigation := ⟨0, 0, .finite 0, 0⟩
  processLocally := false

theorem applied_independently_fourRotations :
    fourRotations.rotationCount ≥ configPublishCount ∧ ¬ fourRotations.Applies := by
  refine ⟨by decide, fun happlies => ?_⟩
  have hendBin := ((applied_independently_iff fourRotations (by decide)).1.mp happlies).2.2.2
  exact absurd ((hendBin (by decide)).1 (by decide)) (by decide)

/-- The end bin is 2 and becomes 4, the end azimuth. -/
theorem not_forall_applies :
    ¬ ∀ st : NavigationModeNode, st.rotationCount ≥ configPublishCount → st.Applies := by
  intro h
  have hafter : fourRotations.checkConfigPublish.1.window.endBin = 4 := rfl
  have hendBin := (h fourRotations (by decide)).endBin.of_valid (by decide)
  rw [hafter] at hendBin
  exact absurd hendBin (by decide)

end NavigationModeNode

end Ros

end Navtech
