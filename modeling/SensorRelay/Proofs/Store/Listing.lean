import Mathlib.Data.List.Nodup
import SensorRelay.Proofs.Store.Integrity

/-!
# Listed records

The records of a sensor in a window are those of the table that the window holds
(`recordsOf_perm`), each before all that were captured later or at the same time but stored later
(`Integrity.pairwise_recordsOf`). If new records that were captured at different times come to old
ones, what is listed does not depend on the order in which the new ones are stored
(`map_capture_eq`) : among the old records order is kept, and an old record goes before a new one
of the same time in any case.
-/

namespace SensorRelay

/-- A record was captured before another, or at the same time and stored before it. -/
def RecordRow.Precedes (a b : RecordRow) : Prop :=
  a.wall.micros < b.wall.micros ∨ a.wall = b.wall ∧ a.id < b.id

/-- What was captured, and when. -/
def RecordRow.capture (r : RecordRow) : WallClock × Binary64 :=
  (r.wall, r.value)

namespace Store

/-- Does a listing hold the record? -/
def selects (sensorId : Int) (window : Window) (r : RecordRow) : Bool :=
  (r.sensorId : Int) == sensorId && window.holds r.wall

variable {s : Store}

theorem recordLe_trans (a b c : RecordRow) (hab : recordLe a b = true) (hbc : recordLe b c = true) :
    recordLe a c = true := by
  simp only [recordLe, Bool.or_eq_true, Bool.and_eq_true, decide_eq_true_eq, beq_iff_eq] at *
  omega

theorem recordLe_total (a b : RecordRow) : (recordLe a b || recordLe b a) = true := by
  simp only [recordLe, Bool.or_eq_true, Bool.and_eq_true, decide_eq_true_eq, beq_iff_eq]
  omega

theorem precedes_of_recordLe {a b : RecordRow} (h : recordLe a b = true) (hid : a.id ≠ b.id) :
    a.Precedes b := by
  simp only [recordLe, Bool.or_eq_true, Bool.and_eq_true, decide_eq_true_eq, beq_iff_eq] at h
  rcases h with hlt | ⟨heq, hle⟩
  · exact Or.inl hlt
  · refine Or.inr ⟨?_, Nat.lt_of_le_of_ne hle hid⟩
    cases ha : a.wall
    cases hb : b.wall
    rw [ha, hb] at heq
    congr

theorem answer_records {id : Int} (hkey : checkKey id = .ok ()) (s : Store) (window : Window) :
    answer (.records id window) s = (.ok (some (s.recordsOf id window)), s) :=
  byKey_eq hkey s _

/-- A listing has the records that it selects. -/
theorem recordsOf_perm (s : Store) (sensorId : Int) (window : Window) :
    (s.recordsOf sensorId window).Perm (s.records.filter (selects sensorId window)) :=
  List.mergeSort_perm _ _

/-- A listing goes by the time of capture, and then by the order in which records were stored. -/
theorem Integrity.pairwise_recordsOf (hs : s.Integrity) (sensorId : Int) (window : Window) :
    (s.recordsOf sensorId window).Pairwise RecordRow.Precedes := by
  have hsorted := List.pairwise_mergeSort recordLe_trans recordLe_total
    (s.records.filter (selects sensorId window))
  have hids : (s.recordsOf sensorId window).Pairwise fun a b => a.id ≠ b.id := by
    have hnodup : ((s.records.filter (selects sensorId window)).map RecordRow.id).Nodup :=
      hs.recordIds.nodup.sublist (List.filter_sublist.map _)
    exact List.pairwise_map.1 (((s.recordsOf_perm sensorId window).map _).nodup_iff.2 hnodup)
  exact (hsorted.and hids).imp fun h => precedes_of_recordLe h.1 h.2

/-! ## New records among old ones -/

/-- What a listing shows of a record if it tells new ones, with ids over `n`, only by the time of
capture. -/
def place (n : Nat) (r : RecordRow) : WallClock × Nat × Binary64 :=
  (r.wall, min r.id (n + 1), r.value)

theorem map_place_perm {n : Nat} {old new new' : List RecordRow} (hnew : ∀ r ∈ new, n < r.id)
    (hnew' : ∀ r ∈ new', n < r.id)
    (hsame : (new.map RecordRow.capture).Perm (new'.map RecordRow.capture)) :
    ((old ++ new).map (place n)).Perm ((old ++ new').map (place n)) := by
  have hplace : ∀ rows : List RecordRow, (∀ r ∈ rows, n < r.id) →
      rows.map (place n) = (rows.map RecordRow.capture).map fun c => (c.1, n + 1, c.2) := by
    intro rows hrows
    rw [List.map_map]
    refine List.map_congr_left fun r hr => ?_
    have := hrows r hr
    rw [place, Nat.min_eq_right this]
    rfl
  rw [List.map_append, List.map_append, hplace new hnew, hplace new' hnew']
  exact (hsame.map _).append_left _

/-- Listed records differ in their places if the new ones were captured at different times. -/
theorem pairwise_place {n : Nat} {old new rows : List RecordRow}
    (hrows : rows.Perm (old ++ new)) (hsorted : rows.Pairwise RecordRow.Precedes)
    (hold : ∀ r ∈ old, r.id ≤ n) (hdistinct : (new.map RecordRow.wall).Nodup) :
    (rows.map (place n)).Pairwise fun a b =>
      a.1.micros < b.1.micros ∨ a.1.micros = b.1.micros ∧ a.2.1 < b.2.1 := by
  refine List.pairwise_map.2 (hsorted.imp_of_mem fun {a b} ha hb hab => ?_)
  rcases hab with hlt | ⟨hwall, hid⟩
  · exact Or.inl hlt
  · refine Or.inr ⟨congrArg WallClock.micros hwall, ?_⟩
    -- Of two records of one time the first one is old, for an old one has the smaller id.
    have hfirst : a.id ≤ n := by
      rcases List.mem_append.1 (hrows.mem_iff.1 ha) with haold | hanew
      · exact hold a haold
      · rcases List.mem_append.1 (hrows.mem_iff.1 hb) with hbold | hbnew
        · have := hold b hbold
          omega
        · obtain rfl := List.inj_on_of_nodup_map hdistinct hanew hbnew hwall
          omega
    simp only [place]
    omega

/-- Two listings of old records with new ones show the same captures in the same order, whatever
the order in which the new ones were stored, if these were captured at different times. -/
theorem map_capture_eq {n : Nat} {old new new' rows rows' : List RecordRow}
    (hrows : rows.Perm (old ++ new)) (hrows' : rows'.Perm (old ++ new'))
    (hsorted : rows.Pairwise RecordRow.Precedes) (hsorted' : rows'.Pairwise RecordRow.Precedes)
    (hold : ∀ r ∈ old, r.id ≤ n) (hnew : ∀ r ∈ new, n < r.id) (hnew' : ∀ r ∈ new', n < r.id)
    (hsame : (new.map RecordRow.capture).Perm (new'.map RecordRow.capture))
    (hdistinct : (new.map RecordRow.wall).Nodup) :
    rows.map RecordRow.capture = rows'.map RecordRow.capture := by
  have hdistinct' : (new'.map RecordRow.wall).Nodup := by
    have hwalls := hsame.map Prod.fst
    rw [List.map_map, List.map_map] at hwalls
    exact hwalls.nodup_iff.1 hdistinct
  have hperm : (rows.map (place n)).Perm (rows'.map (place n)) :=
    ((hrows.map _).trans (map_place_perm hnew hnew' hsame)).trans (hrows'.map _).symm
  have hplaces : rows.map (place n) = rows'.map (place n) := by
    refine List.Perm.eq_of_pairwise (fun a b _ _ hab hba => ?_)
      (pairwise_place hrows hsorted hold hdistinct)
      (pairwise_place hrows' hsorted' hold hdistinct') hperm
    omega
  have hcaptures := congrArg (List.map fun p : WallClock × Nat × Binary64 => (p.1, p.2.2)) hplaces
  rwa [List.map_map, List.map_map] at hcaptures

end Store

end SensorRelay
