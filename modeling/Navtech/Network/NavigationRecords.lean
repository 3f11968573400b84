/-
  The records of a navigation-data frame, in wire format and as `Radar_client` delivers them.

  The payload is the ten-byte header of the class and records of six bytes: a range in
  millionths of a metre and a power. The loop of `handle_navigation_data_message` takes as many
  records as fit, so that up to five bytes behind the last one are passed over
  (`peaks_targets`), and every payload is of this form (`exists_records`). What is
  delivered are the records of the frame, in order (`navigationRecords_delivered`).
-/
import Navtech.Network.RadarClient

namespace Navtech

open ByteOrder CheckedView PackedRecord Navtech.Utility
open Navtech.Network (Bytes Message MessageType frameBytes length_frameBytes headerBytes
  length_headerBytes frameBytes_eq_image uint16At_image uint32At_image toVector_frame)

namespace RadarClient

variable {x : Externals}

/-- A record on the wire. -/
def recordBytes (record : UInt32 × UInt16) : Bytes :=
  packed [4, 2] [record.1.toNat, record.2.toNat]

/-- A record as it is delivered: the range in metres, and the power. -/
def peak (record : UInt32 × UInt16) : ℚ × UInt16 :=
  (record.1.toNat / rangeMultiplier, record.2)

@[simp] theorem length_recordBytes (record : UInt32 × UInt16) :
    (recordBytes record).length = navDataRecordLength := length_packed rfl

/-- The bytes of a list of records. -/
def recordsBytes (records : List (UInt32 × UInt16)) : Bytes := records.flatMap recordBytes

theorem recordsBytes_cons (record : UInt32 × UInt16) (records : List (UInt32 × UInt16)) :
    recordsBytes (record :: records) = recordBytes record ++ recordsBytes records := rfl

@[simp] theorem length_recordsBytes (records : List (UInt32 × UInt16)) :
    (recordsBytes records).length = records.length * navDataRecordLength := by
  induction records with
  | nil => rfl
  | cons record records ih =>
    rw [recordsBytes_cons, List.length_append, length_recordBytes, ih, List.length_cons,
      Nat.succ_mul, Nat.add_comm]

/-- Six bytes are a record. -/
theorem exists_recordBytes {bs : Bytes} (h : bs.length = navDataRecordLength) :
    ∃ record, bs = recordBytes record := by
  have hsplit := List.take_append_drop 4 bs
  obtain ⟨range, hrange⟩ := exists_uint32_of_length (l := bs.take 4) (by
    simp [h, navDataRecordLength])
  obtain ⟨power, hpower⟩ := exists_uint16_of_length (l := bs.drop 4) (by
    simp [h, navDataRecordLength])
  refine ⟨(range, power), ?_⟩
  rw [← hsplit, hrange, hpower]
  simp [recordBytes, packed]

/-- Every byte vector is a list of records and up to five bytes. -/
theorem exists_records (targets : Bytes) :
    ∃ records extra, targets = recordsBytes records ++ extra ∧
      extra.length < navDataRecordLength := by
  induction hn : targets.length using Nat.strong_induction_on generalizing targets with
  | _ n ih =>
    by_cases hshort : targets.length < navDataRecordLength
    · exact ⟨[], targets, rfl, hshort⟩
    · have hlen : (targets.take navDataRecordLength).length = navDataRecordLength := by
        rw [List.length_take]
        omega
      have hdrop : (targets.drop navDataRecordLength).length < n := by
        rw [List.length_drop, hn]
        unfold navDataRecordLength at hshort ⊢
        omega
      obtain ⟨record, hrecord⟩ := exists_recordBytes hlen
      obtain ⟨records, extra, hrest, hextra⟩ := ih _ hdrop _ rfl
      refine ⟨record :: records, extra, ?_, hextra⟩
      rw [recordsBytes_cons, List.append_assoc, ← hrest, ← hrecord, List.take_append_drop]

/-- The records at the start of a byte vector. -/
def recordsOf : Bytes → List (UInt32 × UInt16)
  | a :: b :: c :: d :: e :: f :: rest =>
    (UInt32.ofNat (ofBEBytes [a, b, c, d]), UInt16.ofNat (ofBEBytes [e, f])) :: recordsOf rest
  | _ => []

theorem recordsOf_recordBytes (record : UInt32 × UInt16) (rest : Bytes) :
    recordsOf (recordBytes record ++ rest) = record :: recordsOf rest := by
  have hbytes : recordBytes record = beBytes 4 record.1.toNat ++ beBytes 2 record.2.toNat := by
    simp [recordBytes, packed]
  have hrange : UInt32.ofNat (ofBEBytes (beBytes 4 record.1.toNat)) = record.1 := by
    have hsmall : record.1.toNat % 256 ^ 4 = record.1.toNat := Nat.mod_eq_of_lt record.1.toNat_lt
    rw [ofBEBytes_beBytes, hsmall, UInt32.ofNat_toNat]
  have hpower : UInt16.ofNat (ofBEBytes (beBytes 2 record.2.toNat)) = record.2 := by
    have hsmall : record.2.toNat % 256 ^ 2 = record.2.toNat := Nat.mod_eq_of_lt record.2.toNat_lt
    rw [ofBEBytes_beBytes, hsmall, UInt16.ofNat_toNat]
  have hfour := length_beBytes 4 record.1.toNat
  have htwo := length_beBytes 2 record.2.toNat
  generalize beBytes 4 record.1.toNat = range at hbytes hrange hfour
  generalize beBytes 2 record.2.toNat = power at hbytes hpower htwo
  obtain ⟨a, b, c, d, rfl⟩ := List.length_eq_four.mp hfour
  obtain ⟨e, f, rfl⟩ := List.length_eq_two.mp htwo
  rw [hbytes]
  show (UInt32.ofNat _, UInt16.ofNat _) :: _ = _
  rw [hrange, hpower]
  rfl

/-- The bytes behind the last record are not looked at. -/
theorem recordsOf_append {records : List (UInt32 × UInt16)} {extra : Bytes}
    (hextra : extra.length < navDataRecordLength) :
    recordsOf (recordsBytes records ++ extra) = records := by
  induction records with
  | nil =>
    have hnone : recordsBytes [] ++ extra = extra := rfl
    have hsix : extra.length < 6 := hextra
    rw [hnone]
    unfold recordsOf
    split
    · simp only [List.length_cons] at hsix
      omega
    · rfl
  | cons record records ih =>
    rw [recordsBytes_cons, List.append_assoc, recordsOf_recordBytes, ih]

/-- The record at the start of what is left of the vector. -/
theorem peaks_succ (pre rest : Bytes) (record : UInt32 × UInt16) (count : Nat) :
    peaks (pre ++ recordBytes record ++ rest) (count + 1) pre.length =
      (peaks (pre ++ recordBytes record ++ rest) count (pre.length + navDataRecordLength)).map
        (peak record :: ·) := by
  have hrange : read 4 (pre ++ recordBytes record ++ rest) pre.length =
      .ok (htonl record.1).toNat := by
    rw [toNat_htonl]
    exact read_packed (i := 0) pre rest rfl rfl
  have hpower : read 2 (pre ++ recordBytes record ++ rest) (pre.length + 4) =
      .ok (htons record.2).toNat := by
    rw [toNat_htons]
    exact read_packed (i := 1) pre rest rfl rfl
  have hpeak : (((htonl (htonl record.1)).toNat / rangeMultiplier : ℚ),
      htons (htons record.2)) = peak record := by
    have h4 : htonl (htonl record.1) = record.1 := ntohl_htonl record.1
    have h2 : htons (htons record.2) = record.2 := ntohs_htons record.2
    rw [h4, h2]
    rfl
  simp only [peaks, hrange, hpower, bind, Except.bind, UInt32.ofNat_toNat, UInt16.ofNat_toNat]
  rw [hpeak]
  cases peaks (pre ++ recordBytes record ++ rest) count (pre.length + navDataRecordLength) <;> rfl

/-- The loop over the records that lie behind `pre`; what follows them is not looked at. -/
theorem peaks_recordsBytes (pre rest : Bytes) (records : List (UInt32 × UInt16)) :
    peaks (pre ++ recordsBytes records ++ rest) records.length pre.length =
      .ok (records.map peak) := by
  induction records generalizing pre with
  | nil => rfl
  | cons record records ih =>
    have hnext := ih (pre ++ recordBytes record)
    rw [List.length_append, length_recordBytes] at hnext
    have hsplit : pre ++ recordsBytes (record :: records) ++ rest =
        pre ++ recordBytes record ++ (recordsBytes records ++ rest) := by
      simp [recordsBytes_cons]
    rw [hsplit, List.length_cons, peaks_succ, ← List.append_assoc, hnext]
    rfl

/-- The records of a vector are those that fit. -/
theorem peaks_targets (records : List (UInt32 × UInt16)) {extra : Bytes}
    (hextra : extra.length < navDataRecordLength) :
    peaks (recordsBytes records ++ extra)
        ((recordsBytes records ++ extra).length / navDataRecordLength) 0 =
      .ok (records.map peak) := by
  have hcount : (recordsBytes records ++ extra).length / navDataRecordLength = records.length := by
    rw [List.length_append, length_recordsBytes, Nat.add_comm,
      Nat.add_mul_div_right _ _ (Nat.zero_lt_of_lt hextra), Nat.div_eq_of_lt hextra, Nat.zero_add]
  rw [hcount]
  exact peaks_recordsBytes [] extra records

/-- The header of a navigation-data payload. -/
def navigationHeader (azimuth : UInt16) (ntpSeconds ntpSplitSeconds : UInt32) : Bytes :=
  packed Network.NavigationData.layout
    [azimuth.toNat, ntpSeconds.toNat, ntpSplitSeconds.toNat]

@[simp] theorem length_navigationHeader (azimuth : UInt16) (ntpSeconds ntpSplitSeconds : UInt32) :
    (navigationHeader azimuth ntpSeconds ntpSplitSeconds).length = Network.NavigationData.size :=
  length_packed rfl

/-- The members of `navigation_data` for a frame of records. -/
theorem navigationData_records (encoderSize : UInt16) (t : MessageType) (azimuth : UInt16)
    (ntpSeconds ntpSplitSeconds : UInt32) (records : List (UInt32 × UInt16)) {extra : Bytes}
    (hextra : extra.length < navDataRecordLength)
    (hsize : Network.NavigationData.size + (recordsBytes records ++ extra).length < 2 ^ 32) :
    navigationData encoderSize
        (frameBytes t (navigationHeader azimuth ntpSeconds ntpSplitSeconds ++
          (recordsBytes records ++ extra))) =
      .ok {
        angle := angle azimuth encoderSize
        azimuth := azimuth
        ntpSeconds := ntpSeconds
        ntpSplitSeconds := ntpSplitSeconds
        peaks := records.map peak } := by
  have htargets : Network.MessageBase.toVector Network.NavigationData.size
      (frameBytes t (navigationHeader azimuth ntpSeconds ntpSplitSeconds ++
        (recordsBytes records ++ extra))) = .ok (recordsBytes records ++ extra) :=
    (toVector_frame (by simp) (by decide)).mpr hsize
  unfold navigationData
  rw [htargets]
  unfold Network.NavigationData.azimuth Network.NavigationData.ntpSeconds
    Network.NavigationData.ntpSplitSeconds navigationHeader
  rw [frameBytes_eq_image, uint16At_image (length_headerBytes _ _) rfl rfl,
    uint32At_image (length_headerBytes _ _) rfl rfl,
    uint32At_image (length_headerBytes _ _) rfl rfl]
  simp only [bind, Except.bind, peaks_targets records hextra]
  rfl

/-- **Navigation records are decoded exactly.** From a frame of records, with at most five
    bytes behind the last one, the handler delivers one object: with the azimuth and the time
    stamp of the header, and with the records as its peaks, in order. No access leaves the
    payload, or it would be a fault. -/
theorem navigationRecords_delivered (c : RadarClient) (hcallback : c.navigationDataCallback = true)
    (azimuth : UInt16) (ntpSeconds ntpSplitSeconds : UInt32)
    (records : List (UInt32 × UInt16)) (extra : Bytes) (hextra : extra.length ≤ 5)
    (hsize : (navigationHeader azimuth ntpSeconds ntpSplitSeconds ++
      (recordsBytes records ++ extra)).length < 2 ^ 32) :
    c.handleNavigationDataMessage (x := x) (.ofBuffer (frameBytes .navigationData
        (navigationHeader azimuth ntpSeconds ntpSplitSeconds ++
          (recordsBytes records ++ extra)))) =
      .ok (c, [.navigationData {
        angle := angle azimuth c.encoderSize
        azimuth := azimuth
        ntpSeconds := ntpSeconds
        ntpSplitSeconds := ntpSplitSeconds
        peaks := records.map fun record =>
          ((record.1.toNat / 1000000 : ℚ), record.2) }]) := by
  rw [List.length_append, length_navigationHeader] at hsize
  have hdata := navigationData_records c.encoderSize .navigationData azimuth ntpSeconds
    ntpSplitSeconds records (Nat.lt_succ_of_le hextra) hsize
  unfold handleNavigationDataMessage
  rw [if_pos hcallback, Message.ofBuffer, hdata]
  rfl

/-- Two records and one byte behind them. -/
theorem navigationRecords_delivered_two :
    (new.setNavigationDataCallback true).handleNavigationDataMessage (x := .unparsed)
        (.ofBuffer (frameBytes .navigationData
          (navigationHeader 300 7 9 ++ (recordsBytes [(2500000, 80), (1, 65535)] ++ [3])))) =
      .ok (new.setNavigationDataCallback true, [.navigationData {
        angle := angle 300 0
        azimuth := 300
        ntpSeconds := 7
        ntpSplitSeconds := 9
        peaks := [(2500000, 80), (1, 65535)].map fun record : UInt32 × UInt16 =>
          ((record.1.toNat / 1000000 : ℚ), record.2) }]) :=
  navigationRecords_delivered _ rfl 300 7 9 [(2500000, 80), (1, 65535)] [3] (by decide) (by decide)

end RadarClient

end Navtech
