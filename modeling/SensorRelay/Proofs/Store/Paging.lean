import SensorRelay.Proofs.Store.Listing

/-!
# Reading a window in pages

A window may be read in pages, each beginning a microsecond after the one before it has ended. Both
ends of a window lie inside it and wall clocks are whole microseconds, so that every record of the
window is on one page; and the order of a listing is total, so that the pages one after the other
are what the whole window lists (`recordsOf_append`, `Pages.flatMap_recordsOf`). The database
answers for them in this way after whatever has been stored (`paging_of_reachable`).
-/

namespace SensorRelay

namespace WallClock

/-- The wall clock a microsecond later, unless the calendar ends. -/
def next? (w : WallClock) : Option WallClock :=
  ofMicros? (w.micros + 1)

variable {b c next : WallClock}

theorem next?_eq_some_iff : b.next? = some next ↔ next.micros = b.micros + 1 := by
  obtain ⟨micros, hlt⟩ := next
  have hnonneg : (0 : Int) ≤ b.micros + 1 := by omega
  have hnat : ((b.micros : Int) + 1).toNat = b.micros + 1 := by omega
  simp only [next?, ofMicros?, hnat, hnonneg, if_true]
  split
  · simp [eq_comm]
  · simp only [reduceCtorEq, false_iff]
    omega

theorem exists_next?_of_lt (h : b.micros < c.micros) : ∃ next, b.next? = some next := by
  have hlt : b.micros + 1 < wallLimit := by
    have := c.isLt
    omega
  exact ⟨⟨b.micros + 1, hlt⟩, next?_eq_some_iff.2 rfl⟩

end WallClock

/-- Of two records one at most precedes the other. -/
theorem RecordRow.Precedes.asymm {x y : RecordRow} (hxy : x.Precedes y) : ¬y.Precedes x := by
  rintro (hlt | ⟨hwall, hid⟩)
  · rcases hxy with hlt' | ⟨hwall, -⟩
    · omega
    · exact Nat.lt_irrefl _ (hwall ▸ hlt)
  · rcases hxy with hlt' | ⟨-, hid'⟩
    · exact Nat.lt_irrefl _ (hwall ▸ hlt')
    · omega

namespace Store

/-! ## Pages -/

/-- The window between two times without an offset, both inside it. An end that is not given is
open. -/
def Window.between (first last : Option WallClock) : Window :=
  ⟨first.map fun a => ⟨a, none⟩, last.map fun c => ⟨c, none⟩⟩

/-- The windows are pages of the one from `first` to `last` : a page ends before the last time, and
the next one begins a microsecond later. -/
inductive Pages (last : Option WallClock) : Option WallClock → List Window → Prop
  | whole (first : Option WallClock) : Pages last first [.between first last]
  | turn {first : Option WallClock} {b next : WallClock} {pages : List Window}
    (after_first : ∀ a ∈ first, a.micros ≤ b.micros)
    (before_last : ∀ c ∈ last, b.micros < c.micros) (adjacent : b.next? = some next)
    (rest : Pages last (some next) pages) : Pages last first (.between first (some b) :: pages)

variable {s : Store} {first last : Option WallClock} {b next : WallClock}

theorem Window.holds_between {wall : WallClock} : (Window.between first last).holds wall = true ↔
    (∀ a ∈ first, a.micros ≤ wall.micros) ∧ ∀ c ∈ last, wall.micros ≤ c.micros := by
  cases first <;> cases last <;> simp [Window.between, Window.holds]

section Turn

variable (hfirst : ∀ a ∈ first, a.micros ≤ b.micros) (hlast : ∀ c ∈ last, b.micros < c.micros)

include hlast in
/-- The page before a turn holds what the window holds up to the turn. -/
theorem Window.holds_before_turn (wall : WallClock) : (Window.between first (some b)).holds wall =
    (decide (wall.micros ≤ b.micros) && (Window.between first last).holds wall) := by
  rw [Bool.eq_iff_iff, Bool.and_eq_true, decide_eq_true_iff, holds_between, holds_between]
  simp only [Option.mem_some_iff, forall_eq']
  constructor
  · rintro ⟨hafter, hle⟩
    refine ⟨hle, hafter, fun c hc => ?_⟩
    have := hlast c hc
    omega
  · rintro ⟨hle, hafter, -⟩
    exact ⟨hafter, hle⟩

include hfirst in
/-- The page after a turn holds all else. -/
theorem Window.holds_after_turn (hnext : b.next? = some next) (wall : WallClock) :
    (Window.between (some next) last).holds wall =
      (!decide (wall.micros ≤ b.micros) && (Window.between first last).holds wall) := by
  have hmicros := WallClock.next?_eq_some_iff.1 hnext
  rw [Bool.eq_iff_iff, Bool.and_eq_true, Bool.not_eq_true', decide_eq_false_iff_not, holds_between,
    holds_between]
  simp only [Option.mem_some_iff, forall_eq']
  constructor
  · rintro ⟨hle, hbefore⟩
    refine ⟨by omega, fun a ha => ?_, hbefore⟩
    have := hfirst a ha
    omega
  · rintro ⟨hlt, -, hbefore⟩
    exact ⟨by omega, hbefore⟩

include hfirst hlast in
/-- Two pages one after the other are what the window lists at once. -/
theorem Integrity.recordsOf_append (hs : s.Integrity) (hnext : b.next? = some next) (id : Int) :
    s.recordsOf id (.between first last) =
      s.recordsOf id (.between first (some b)) ++ s.recordsOf id (.between (some next) last) := by
  have hpages : (s.records.filter (selects id (.between first last))).Perm
      (s.records.filter (selects id (.between first (some b))) ++
        s.records.filter (selects id (.between (some next) last))) := by
    have hbefore : ∀ r : RecordRow, selects id (.between first (some b)) r =
        (decide (r.wall.micros ≤ b.micros) && selects id (.between first last) r) := by
      intro r
      rw [selects, selects, Window.holds_before_turn hlast, Bool.and_left_comm]
    have hafter : ∀ r : RecordRow, selects id (.between (some next) last) r =
        (!decide (r.wall.micros ≤ b.micros) && selects id (.between first last) r) := by
      intro r
      rw [selects, selects, Window.holds_after_turn hfirst hnext, Bool.and_left_comm]
    simp only [funext hbefore, funext hafter, ← List.filter_filter]
    exact (List.filter_append_perm _ _).symm
  have hperm := ((s.recordsOf_perm id _).trans hpages).trans
    ((s.recordsOf_perm id _).append (s.recordsOf_perm id _)).symm
  -- A record of the first page comes before one of the second because its time does.
  have hturn : ∀ x ∈ s.recordsOf id (.between first (some b)),
      ∀ y ∈ s.recordsOf id (.between (some next) last), x.Precedes y := by
    intro x hx y hy
    have hx := (s.recordsOf_perm id _).mem_iff.1 hx
    have hy := (s.recordsOf_perm id _).mem_iff.1 hy
    rw [List.mem_filter, selects, Bool.and_eq_true, Window.holds_between] at hx hy
    have hxb : x.wall.micros ≤ b.micros := hx.2.2.2 b rfl
    have hyb : next.micros ≤ y.wall.micros := hy.2.2.1 next rfl
    have hmicros := WallClock.next?_eq_some_iff.1 hnext
    exact Or.inl (by omega)
  refine hperm.eq_of_pairwise (fun x y _ _ hxy hyx => ?_) (hs.pairwise_recordsOf id _)
    (List.pairwise_append.2 ⟨hs.pairwise_recordsOf id _, hs.pairwise_recordsOf id _, hturn⟩)
  exact (RecordRow.Precedes.asymm hxy hyx).elim

end Turn

/-- All pages one after the other are what the window lists at once. -/
theorem Pages.flatMap_recordsOf {pages : List Window} (h : Pages last first pages)
    (hs : s.Integrity) (id : Int) :
    pages.flatMap (s.recordsOf id) = s.recordsOf id (.between first last) := by
  induction h with
  | whole first => exact List.flatMap_singleton _ _
  | turn after_first before_last adjacent rest ih =>
    rw [List.flatMap_cons, ih, hs.recordsOf_append after_first before_last adjacent]

/-! ## Answers -/

/-- Asked for a sensor and each of the pages, the tables list what they list at once for the whole
window. -/
def ListsPaged (s : Store) (id : Int) (pages : List Window) (whole : Window) : Prop :=
  ∃ listed, List.Forall₂ (fun page rows => answer (.records id page) s = (.ok (some rows), s))
      pages listed ∧
    answer (.records id whole) s = (.ok (some listed.flatten), s)

theorem Pages.listsPaged {pages : List Window} (h : Pages last first pages) (hs : s.Integrity)
    {id : Int} (hid : checkKey id = .ok ()) : s.ListsPaged id pages (.between first last) := by
  refine ⟨pages.map (s.recordsOf id), ?_, ?_⟩
  · rw [List.forall₂_map_right_iff, List.forall₂_same]
    exact fun page _ => answer_records hid s page
  · rw [← List.flatMap_def, h.flatMap_recordsOf hs]
    exact answer_records hid s _

/-- Two windows of which the second begins a microsecond after the first has ended list together
what the window over both lists, whether its other ends are given or open, and so does any number
of pages. For an id that the database cannot hold all windows are refused alike. -/
theorem paging_of_reachable (hs : s.Reachable) (id : Int) :
    (fitsSigned 64 id = true →
      (∀ a b c : WallClock, a.micros ≤ b.micros → b.micros < c.micros →
        ∃ next, b.next? = some next ∧
          s.ListsPaged id [.between (some a) (some b), .between (some next) (some c)]
            (.between (some a) (some c)) ∧
          s.ListsPaged id [.between none (some b), .between (some next) none] .all) ∧
      ∀ first last pages, Pages last first pages →
        s.ListsPaged id pages (.between first last)) ∧
    (fitsSigned 64 id = false →
      ∀ window, answer (.records id window) s = (.error oversizedKey, s)) := by
  refine ⟨fun hid => ⟨fun a b c hab hbc => ?_, fun first last pages h => ?_⟩, fun hid window => ?_⟩
  · obtain ⟨next, hnext⟩ := WallClock.exists_next?_of_lt hbc
    have hclosed : Pages (some c) (some a)
        [.between (some a) (some b), .between (some next) (some c)] :=
      .turn (by simpa using hab) (by simpa using hbc) hnext (.whole _)
    have hopen : Pages none none [.between none (some b), .between (some next) none] :=
      .turn (by simp) (by simp) hnext (.whole _)
    exact ⟨next, hnext, hclosed.listsPaged hs.integrity (checkKey_of_fits hid),
      hopen.listsPaged hs.integrity (checkKey_of_fits hid)⟩
  · exact h.listsPaged hs.integrity (checkKey_of_fits hid)
  · exact byKey_oversized (checkKey_of_not_fits hid) s _

/-- Two of the records have the time at which the page is turned, and the latest was stored
first. -/
theorem paging_with_ties_at_turn :
    let clock : Fin 4 → WallClock := fun n => ⟨n, Nat.lt_trans n.isLt (by decide)⟩
    let record : Fin 4 → StoreCall := fun n =>
      .insertRecord (some 1) (.whole 7) (some ⟨clock n, none⟩)
    let s := [.insertSection (some "hall"), .insertModule (some "east") (some 1),
      .insertSensor (some "pump") (some 1) (some "hall/east/pump"), record 3, record 2, record 1,
      record 2].foldl (fun s c => (answer c s).2) empty
    (s.records.map fun r => (r.id, r.wall.micros)) = [(1, 3), (2, 2), (3, 1), (4, 2)] ∧
      (clock 2).next? = some (clock 3) ∧
      s.ListsPaged 1 [.between (some (clock 1)) (some (clock 2)),
        .between (some (clock 3)) (some (clock 3))] (.between (some (clock 1)) (some (clock 3))) ∧
      s.ListsPaged 1 [.between none (some (clock 2)), .between (some (clock 3)) none] .all := by
  intro clock record s
  have hs : s.Reachable :=
    .request _ (.request _ (.request _ (.request _ (.request _ (.request _ (.request _ .empty))))))
  obtain ⟨hwindows, -⟩ := (paging_of_reachable hs 1).1 (by decide)
  obtain ⟨next, hnext, hclosed, hopen⟩ :=
    hwindows (clock 1) (clock 2) (clock 3) (by decide) (by decide)
  have hclock : (clock 2).next? = some (clock 3) := WallClock.next?_eq_some_iff.2 rfl
  obtain rfl := Option.some.inj (hclock.symm.trans hnext)
  exact ⟨by decide +kernel, hclock, hclosed, hopen⟩

end Store

end SensorRelay
