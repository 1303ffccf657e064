import CanDecoder.Proofs.LogLines
import Mathlib.Data.List.Induction
import Mathlib.Data.String.Basic

/-! The counters and views of a pass over a log. A pass is a fold of one step per line;
the step for a line adds the line's rows, its counts and its values, so a whole pass adds
those of every line, in log order (`foldl_addLine`). The rows of a log are one per reading
of every frame it holds. The snapshot of latest values is a fold of `record` over those
rows; `record` keeps the snapshot ascending by channel name and changes only the entry of
the channel it records (`find?_record`), exactly as one more row changes what the rows say
about that channel (`entryOf_append`). So the snapshot holds one entry per channel name,
with the value and unit of its last row, the identifier of its first and its number of
rows. -/

namespace CanDecoder.Log

open scoped List

/-! ### What a log says -/

/-- The timestamp text of a frame: six decimals, or empty without a timestamp. -/
def timestampText (f : LoggedFrame) : String := (f.timestamp.map (Decimal.fixedText 6)).getD ""

/-- The row of a reading of a frame: the frame's timestamp and identifier texts, the
reading's name, its value rounded and its unit. -/
def readingRow (timestamp id : String) (r : Reading) : ChannelRow :=
  ⟨timestamp, id, r.name, roundValue r.value, r.unit⟩

/-- The rows of a log line: one for each reading of the frame it holds, none for any other
line. -/
def lineRows (bus : Bus) (line : String) : List ChannelRow :=
  match parseLine line with
  | .ok (some f) => (bus.decode f.id f.data).map (readingRow (timestampText f) (FrameId.format f.id))
  | _ => []

/-- The rows of a log, in log order. -/
def logRows (bus : Bus) (lines : List String) : List ChannelRow := lines.flatMap (lineRows bus)

/-- Whether a line holds no frame: it is blank or a comment. -/
def holdsNoFrame (line : String) : Bool :=
  match parseLine line with
  | .ok none => true
  | _ => false

/-- Whether a line holds a frame. -/
def holdsFrame (line : String) : Bool :=
  match parseLine line with
  | .ok (some _) => true
  | _ => false

/-- Whether a line is in no known layout. -/
def isRefused (line : String) : Bool :=
  match parseLine line with
  | .error _ => true
  | _ => false

/-- Whether a line holds a frame that decodes to at least one reading on `bus`. -/
def decodesOn (bus : Bus) (line : String) : Bool :=
  match parseLine line with
  | .ok (some f) => !(bus.decode f.id f.data).isEmpty
  | _ => false

/-- A line holds no frame, holds one or is refused: exactly one of the three. -/
theorem line_kinds (line : String) :
    (if holdsNoFrame line then 1 else 0) + (if holdsFrame line then 1 else 0) +
      (if isRefused line then 1 else 0) = 1 := by
  unfold holdsNoFrame holdsFrame isRefused
  rcases parseLine line with _ | _ | _ <;> rfl

theorem holdsFrame_of_decodesOn {bus : Bus} {line : String} (h : decodesOn bus line = true) :
    holdsFrame line = true := by
  unfold decodesOn at h
  unfold holdsFrame
  split at h
  · rfl
  · cases h

theorem lineRows_ne_nil {bus : Bus} {line : String} (h : decodesOn bus line = true) :
    lineRows bus line ≠ [] := by
  unfold decodesOn at h
  unfold lineRows
  split at h
  · simpa using h
  · cases h

/-! ### One pass -/

/-- Record a row in a snapshot. -/
def recordRow (latest : List LatestRow) (row : ChannelRow) : List LatestRow :=
  record row.channel row.value row.unit row.id latest

theorem addReadings_eq (keep : Bool) (timestamp id : String) (t : Tally) (rs : List Reading) :
    Tally.addReadings keep timestamp id t rs =
      { rowsNewestFirst :=
          (if keep then (rs.map (readingRow timestamp id)).reverse else []) ++ t.rowsNewestFirst
        latest := (rs.map (readingRow timestamp id)).foldl recordRow t.latest
        stats := { t.stats with channels := t.stats.channels + rs.length } } := by
  induction rs generalizing t with
  | nil => cases keep <;> rfl
  | cons r rs ih =>
    rw [Tally.addReadings, ih]
    cases keep <;> simp [readingRow, recordRow, Nat.add_assoc, Nat.add_comm 1]

/-- One line adds its rows, its values and its counts. -/
theorem addLine_eq (bus : Bus) (keep : Bool) (t : Tally) (line : String) :
    Tally.addLine bus keep t line =
      { rowsNewestFirst := (if keep then (lineRows bus line).reverse else []) ++ t.rowsNewestFirst
        latest := (lineRows bus line).foldl recordRow t.latest
        stats :=
          { lines := t.stats.lines + 1
            frames := t.stats.frames + if holdsFrame line then 1 else 0
            decodedFrames := t.stats.decodedFrames + if decodesOn bus line then 1 else 0
            channels := t.stats.channels + (lineRows bus line).length
            skipped := t.stats.skipped + if isRefused line then 1 else 0 } } := by
  unfold Tally.addLine lineRows holdsFrame decodesOn isRefused
  rcases hline : parseLine line with e | _ | f
  · cases keep <;> rfl
  · cases keep <;> rfl
  · simp only
    split
    · rename_i hd
      cases keep <;> simp [hd]
    · rename_i rs hne
      rw [addReadings_eq]
      cases keep <;> simp [timestampText] <;> exact hne

/-- A pass over lines adds the rows, values and counts of each line, in log order. -/
theorem foldl_addLine (bus : Bus) (keep : Bool) (lines : List String) (t : Tally) :
    lines.foldl (Tally.addLine bus keep) t =
      { rowsNewestFirst := (if keep then (logRows bus lines).reverse else []) ++ t.rowsNewestFirst
        latest := (logRows bus lines).foldl recordRow t.latest
        stats :=
          { lines := t.stats.lines + lines.length
            frames := t.stats.frames + lines.countP holdsFrame
            decodedFrames := t.stats.decodedFrames + lines.countP (decodesOn bus)
            channels := t.stats.channels + (logRows bus lines).length
            skipped := t.stats.skipped + lines.countP isRefused } } := by
  induction lines generalizing t with
  | nil => cases keep <;> simp [logRows]
  | cons line lines ih =>
    rw [List.foldl_cons, ih, addLine_eq]
    cases keep <;> simp [logRows, List.countP_cons, List.foldl_append] <;> omega

/-- The report of a pass: every row of the log when rows are kept, the snapshot of its
rows, and the counts of its lines. -/
theorem ofLines_eq (bus : Bus) (keep : Bool) (lines : List String) :
    Report.ofLines bus keep lines =
      ⟨if keep then logRows bus lines else [], (logRows bus lines).foldl recordRow [],
        ⟨lines.length, lines.countP holdsFrame, lines.countP (decodesOn bus),
          (logRows bus lines).length, lines.countP isRefused⟩⟩ := by
  rw [Report.ofLines, foldl_addLine]
  cases keep <;> simp [Tally.start]

/-! ### The snapshot of latest values -/

/-- Snapshot entries ascend strictly by channel name. -/
def Ascending (latest : List LatestRow) : Prop := latest.Pairwise fun r s => r.channel < s.channel

/-- The entry of a channel after one more value: a new entry with one update, or the old
one with the new value and unit and one more update. -/
def updated (channel : String) (value : Float) (unit id : String) : Option LatestRow → LatestRow
  | none => ⟨channel, value, unit, id, 1⟩
  | some e => { e with value := value, unit := unit, updates := e.updates + 1 }

theorem mem_record {channel : String} {value : Float} {unit id : String} {l : List LatestRow}
    {e : LatestRow} (h : e ∈ record channel value unit id l) :
    e ∈ l ∨ e.channel = channel := by
  induction l with
  | nil =>
    simp only [record, List.mem_singleton] at h
    exact .inr (h ▸ rfl)
  | cons r rs ih =>
    unfold record at h
    split_ifs at h with hlt heq
    · rcases List.mem_cons.mp h with rfl | h
      · exact .inr rfl
      · exact .inl h
    · rcases List.mem_cons.mp h with rfl | h
      · exact .inr heq.symm
      · exact .inl (List.mem_cons_of_mem r h)
    · rcases List.mem_cons.mp h with rfl | h
      · exact .inl List.mem_cons_self
      · exact (ih h).imp_left (List.mem_cons_of_mem r)

theorem record_ascending (channel : String) (value : Float) (unit id : String)
    {l : List LatestRow} (h : Ascending l) : Ascending (record channel value unit id l) := by
  induction l with
  | nil => exact List.pairwise_singleton _ _
  | cons r rs ih =>
    obtain ⟨hr, hrs⟩ := List.pairwise_cons.mp h
    unfold record
    split_ifs with hlt heq
    · refine List.Pairwise.cons (fun s hs => ?_) h
      rcases List.mem_cons.mp hs with rfl | hs
      · exact hlt
      · exact lt_trans hlt (hr s hs)
    · exact List.Pairwise.cons (fun s hs => heq ▸ hr s hs) hrs
    · have hgt : r.channel < channel := by
        rcases lt_trichotomy channel r.channel with h' | h' | h'
        · exact absurd h' hlt
        · exact absurd h' heq
        · exact h'
      refine List.Pairwise.cons (fun s hs => ?_) (ih hrs)
      rcases mem_record hs with hs | hs
      · exact hr s hs
      · exact hs ▸ hgt

/-- In an ascending snapshot, an entry is the one its channel name finds. -/
theorem find?_of_mem {l : List LatestRow} (h : Ascending l) {e : LatestRow} (he : e ∈ l) :
    l.find? (·.channel == e.channel) = some e := by
  induction l with
  | nil => cases he
  | cons r rs ih =>
    obtain ⟨hr, hrs⟩ := List.pairwise_cons.mp h
    rcases List.mem_cons.mp he with rfl | he
    · simp
    · have hne : r.channel ≠ e.channel := ne_of_lt (hr e he)
      rw [List.find?_cons_of_neg (by simpa using hne)]
      exact ih hrs he

/-- Recording a value of `channel` changes only that channel's entry. -/
theorem find?_record (channel : String) (value : Float) (unit id : String)
    {l : List LatestRow} (h : Ascending l) (n : String) :
    (record channel value unit id l).find? (·.channel == n) =
      if channel = n then some (updated channel value unit id (l.find? (·.channel == channel)))
      else l.find? (·.channel == n) := by
  induction l with
  | nil => by_cases hc : channel = n <;> simp [record, updated, hc]
  | cons r rs ih =>
    obtain ⟨hr, hrs⟩ := List.pairwise_cons.mp h
    by_cases hlt : channel < r.channel
    · -- a new entry in front: the channel had none, since every entry is above it
      have hnone : (r :: rs).find? (·.channel == channel) = none := by
        refine List.find?_eq_none.mpr fun s hs => ?_
        have : channel < s.channel := by
          rcases List.mem_cons.mp hs with rfl | hs
          · exact hlt
          · exact lt_trans hlt (hr s hs)
        simpa using (ne_of_lt this).symm
      rw [record, if_pos hlt, hnone]
      by_cases hc : channel = n
      · subst hc
        simp [updated]
      · simp [hc]
    by_cases heq : channel = r.channel
    · -- the channel's entry is updated in place
      rw [record, if_neg hlt, if_pos heq]
      by_cases hc : channel = n
      · simp [← heq, hc, updated]
      · simp [← heq, hc]
    · -- the entry in front is below the channel and stays
      rw [record, if_neg hlt, if_neg heq]
      have hne : r.channel ≠ channel := fun h' => heq h'.symm
      by_cases hrn : r.channel = n
      · have hc : channel ≠ n := hrn ▸ heq
        simp [hrn, hc]
      · simp [hrn, ih hrs, hne]

/-- What rows say about channel `n`: nothing when no row names it, else the value and unit
of the last row naming it, the identifier of the first and the number of rows naming it. -/
def entryOf (rows : List ChannelRow) (n : String) : Option LatestRow :=
  (rows.find? (·.channel == n)).bind fun first =>
    (rows.reverse.find? (·.channel == n)).map fun last =>
      ⟨n, last.value, last.unit, first.id, rows.countP (·.channel == n)⟩

/-- A row found from the front is also found from the back. -/
theorem exists_find?_reverse {p : ChannelRow → Bool} {rows : List ChannelRow} {first : ChannelRow}
    (h : rows.find? p = some first) : ∃ last, rows.reverse.find? p = some last := by
  have hsat := List.find?_some h
  exact Option.isSome_iff_exists.mp
    (List.find?_isSome.mpr ⟨first, List.mem_reverse.mpr (List.mem_of_find?_eq_some h), hsat⟩)

/-- Rows say something about a channel exactly when some row names it. -/
theorem entryOf_isSome_iff (rows : List ChannelRow) (n : String) :
    (entryOf rows n).isSome ↔ n ∈ rows.map (·.channel) := by
  cases hfirst : rows.find? (·.channel == n) with
  | none =>
    simp only [entryOf, hfirst, Option.bind_none, Option.isSome_none, Bool.false_eq_true,
      false_iff, List.mem_map, not_exists, not_and]
    exact fun s hs hsn => by simpa [hsn] using List.find?_eq_none.mp hfirst s hs
  | some first =>
    obtain ⟨last, hlast⟩ := exists_find?_reverse hfirst
    have hsat := List.find?_some hfirst
    simp only [entryOf, hfirst, hlast, Option.bind_some, Option.map_some, Option.isSome_some,
      true_iff]
    exact List.mem_map.mpr ⟨first, List.mem_of_find?_eq_some hfirst, by simpa using hsat⟩

/-- One more row changes only what the rows say about its channel. -/
theorem entryOf_append (rows : List ChannelRow) (row : ChannelRow) (n : String) :
    entryOf (rows ++ [row]) n =
      if row.channel = n then some (updated row.channel row.value row.unit row.id (entryOf rows n))
      else entryOf rows n := by
  unfold entryOf
  by_cases hn : row.channel = n
  · subst hn
    cases hfirst : rows.find? (·.channel == row.channel) with
    | none =>
      have hcount : rows.countP (·.channel == row.channel) = 0 :=
        List.countP_eq_zero.mpr fun s hs => by simpa using List.find?_eq_none.mp hfirst s hs
      simp [List.find?_append, hfirst, hcount, updated]
    | some first =>
      obtain ⟨last, hlast⟩ := exists_find?_reverse hfirst
      simp [List.find?_append, hfirst, hlast, updated, List.countP_append]
  · have hskip : (row.channel == n) = false := by simpa using hn
    simp [hn, List.find?_append, List.countP_append, hskip]

/-- The snapshot of rows is ascending and holds for each channel what the rows say
about it. -/
theorem snapshot_spec (rows : List ChannelRow) :
    Ascending (rows.foldl recordRow []) ∧
      ∀ n, (rows.foldl recordRow []).find? (·.channel == n) = entryOf rows n := by
  induction rows using List.reverseRecOn with
  | nil => exact ⟨List.Pairwise.nil, fun n => by simp [entryOf]⟩
  | append_singleton rows row ih =>
    obtain ⟨hasc, hfind⟩ := ih
    rw [List.foldl_append, List.foldl_cons, List.foldl_nil]
    refine ⟨record_ascending _ _ _ _ hasc, fun n => ?_⟩
    rw [recordRow, find?_record _ _ _ _ hasc, entryOf_append, hfind, hfind]
    by_cases hn : row.channel = n
    · subst hn
      rfl
    · simp [hn]

theorem mem_channels_iff (l : List LatestRow) (n : String) :
    n ∈ l.map (·.channel) ↔ (l.find? (·.channel == n)).isSome := by
  simp [List.find?_isSome]

/-- The snapshot names each channel once. -/
theorem snapshot_nodup (rows : List ChannelRow) :
    ((rows.foldl recordRow []).map (·.channel)).Nodup :=
  List.pairwise_map.mpr ((snapshot_spec rows).1.imp ne_of_lt)

/-- The snapshot names exactly the channels of the rows. -/
theorem mem_snapshot_iff (rows : List ChannelRow) (n : String) :
    n ∈ (rows.foldl recordRow []).map (·.channel) ↔ n ∈ rows.map (·.channel) := by
  rw [mem_channels_iff, (snapshot_spec rows).2 n, entryOf_isSome_iff]

/-- A snapshot entry has the identifier of the first row of its channel, the value and unit
of the last, and the number of rows of its channel as updates. -/
theorem snapshot_entry (rows : List ChannelRow) :
    ∀ e ∈ rows.foldl recordRow [], ∃ first last,
      rows.find? (·.channel == e.channel) = some first ∧
      rows.reverse.find? (·.channel == e.channel) = some last ∧
      e.id = first.id ∧ e.value = last.value ∧ e.unit = last.unit ∧
      e.updates = rows.countP (·.channel == e.channel) := by
  intro e he
  obtain ⟨hasc, hfind⟩ := snapshot_spec rows
  have hentry := (hfind e.channel).symm.trans (find?_of_mem hasc he)
  simp only [entryOf, Option.bind_eq_some_iff, Option.map_eq_some_iff] at hentry
  obtain ⟨first, hfirst, last, hlast, hrow⟩ := hentry
  refine ⟨first, last, hfirst, hlast, ?_⟩
  rw [← hrow]
  exact ⟨rfl, rfl, rfl, rfl⟩

/-- Each value recorded adds one update to the snapshot. -/
theorem updates_record (channel : String) (value : Float) (unit id : String)
    (l : List LatestRow) :
    ((record channel value unit id l).map (·.updates)).foldr (· + ·) 0 =
      (l.map (·.updates)).foldr (· + ·) 0 + 1 := by
  induction l with
  | nil => rfl
  | cons r rs ih =>
    unfold record
    split_ifs
    · simp only [List.map_cons, List.foldr_cons]
      omega
    · simp only [List.map_cons, List.foldr_cons]
      omega
    · simp only [List.map_cons, List.foldr_cons, ih]
      omega

theorem updates_snapshot (rows : List ChannelRow) :
    ((rows.foldl recordRow []).map (·.updates)).foldr (· + ·) 0 = rows.length := by
  induction rows using List.reverseRecOn with
  | nil => rfl
  | append_singleton rows row ih =>
    rw [List.foldl_append, List.foldl_cons, List.foldl_nil, recordRow, updates_record, ih,
      List.length_append, List.length_singleton]

/-! ### Counts -/

theorem countP_decodesOn_le_length (bus : Bus) (lines : List String) :
    lines.countP (decodesOn bus) ≤ (logRows bus lines).length := by
  induction lines with
  | nil => rfl
  | cons line lines ih =>
    -- a line that decodes gives at least one row
    have hrows : (if decodesOn bus line = true then 1 else 0) ≤ (lineRows bus line).length := by
      split
      · exact List.length_pos_iff.mpr (lineRows_ne_nil ‹_›)
      · exact Nat.zero_le _
    rw [logRows] at ih
    rw [List.countP_cons, logRows, List.flatMap_cons, List.length_append]
    omega

theorem length_eq_countP_kinds (lines : List String) :
    lines.length = lines.countP holdsNoFrame + lines.countP holdsFrame + lines.countP isRefused := by
  induction lines with
  | nil => rfl
  | cons line lines ih =>
    have hkind := line_kinds line
    simp only [List.length_cons, List.countP_cons]
    omega

/-- A pass over the lines of a UTF-8 text never fails. It counts every line, and every
line holds no frame, holds a frame or is refused and counted as skipped; a frame decoded
to at least one reading counts as decoded, so decoded frames are at most the frames and at
most the channel values. The rows kept are one per reading of every frame, in log order,
with the frame's timestamp (six decimals, or empty), its identifier text, the reading's
name, rounded value and unit; there are as many as channel values. The snapshot holds one
entry per channel name the rows carry, with the identifier of its first row, the value and
unit of its last and its number of rows, and its updates add up to the channel values.
Without kept rows the pass gives no rows and the same snapshot and counts. -/
theorem report_invariants (bus : Bus) (keepRows : Bool) (text : String) :
    let lines := textLines text
    let rows := logRows bus lines
    let r := Report.ofLines bus keepRows lines
    Report.read bus keepRows text.toUTF8.toList = .ok r ∧
    r.stats.lines = lines.length ∧
    r.stats.frames = lines.countP holdsFrame ∧
    r.stats.skipped = lines.countP isRefused ∧
    r.stats.lines = lines.countP holdsNoFrame + r.stats.frames + r.stats.skipped ∧
    r.stats.decodedFrames = lines.countP (decodesOn bus) ∧
    r.stats.decodedFrames ≤ r.stats.frames ∧
    r.stats.decodedFrames ≤ r.stats.channels ∧
    r.stats.channels = rows.length ∧
    (keepRows = true → r.rows = rows ∧ r.rows.length = r.stats.channels) ∧
    (r.latest.map (·.channel)).Nodup ∧
    (∀ n, n ∈ r.latest.map (·.channel) ↔ n ∈ rows.map (·.channel)) ∧
    (∀ e ∈ r.latest, ∃ first last,
      rows.find? (·.channel == e.channel) = some first ∧
      rows.reverse.find? (·.channel == e.channel) = some last ∧
      e.id = first.id ∧ e.value = last.value ∧ e.unit = last.unit ∧
      e.updates = rows.countP (·.channel == e.channel)) ∧
    (r.latest.map (·.updates)).foldr (· + ·) 0 = r.stats.channels ∧
    (Report.ofLines bus false lines).rows = [] ∧
    (Report.ofLines bus false lines).latest = r.latest ∧
    (Report.ofLines bus false lines).stats = r.stats := by
  refine ⟨by rw [Report.read, byteLines_toUTF8]; rfl, ?_⟩
  rw [ofLines_eq, ofLines_eq]
  refine ⟨rfl, rfl, rfl, length_eq_countP_kinds _, rfl,
    List.countP_mono_left fun line _ h => holdsFrame_of_decodesOn h,
    countP_decodesOn_le_length bus _, rfl, fun hkeep => ?_, snapshot_nodup _, mem_snapshot_iff _,
    snapshot_entry _, updates_snapshot _, rfl, rfl, rfl⟩
  subst hkeep
  exact ⟨rfl, rfl⟩

end CanDecoder.Log
