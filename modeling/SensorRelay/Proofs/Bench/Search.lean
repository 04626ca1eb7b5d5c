import SensorRelay.Bench.Search
import SensorRelay.Proofs.Program.Run

/-!
# What a search asks for

A search is a `course` of a look, an attempt to make what was not found, and another look if someone
else has made it in between (`Program.run_findOrCreate`). So it makes something at most once, and it
looks twice exactly if what it makes is there already (`Search.spent_run`). A script that asks for
one name each time, and makes the section of this name, does what `resolveSection` does, whatever
faults the environment has (`Search.runStore_resolveSection`).
-/

namespace SensorRelay

/-! ## Any search -/

/-- A look, an attempt to make what was not found, and another look if that is a duplicate. -/
def course {σ α : Type} (what : String) (look : σ → Except Failure (Option α) × σ)
    (make : σ → Except Failure α × σ) (s : σ) : Except Failure α × σ :=
  match look s with
  | (.error f, t) => (.error f, t)
  | (.ok (some a), t) => (.ok a, t)
  | (.ok none, t) =>
    match make t with
    | (.ok a, u) => (.ok a, u)
    | (.error f, u) =>
      if f.isDuplicateKey then
        match look u with
        | (.error g, v) => (.error g, v)
        | (.ok (some a), v) => (.ok a, v)
        | (.ok none, v) =>
          (.error (.storage (what ++ ": duplicate key on insert but not found on re-read")), v)
      else (.error f, u)

/-- What was to be made is there already. -/
def IsDuplicate {α : Type} (r : Except Failure α) : Prop :=
  ∃ f, r = .error f ∧ f.isDuplicateKey = true

section Course

variable {σ α : Type} {what : String} {look : σ → Except Failure (Option α) × σ}
  {make : σ → Except Failure α × σ} {s : σ}

theorem course_of_found (h : (look s).1 ≠ .ok none) :
    (course what look make s).2 = (look s).2 := by
  rw [course]
  generalize look s = looked at h ⊢
  obtain ⟨f | found, t⟩ := looked
  · rfl
  cases found with
  | some a => rfl
  | none => exact absurd rfl h

theorem course_of_made (h : (look s).1 = .ok none) (hmake : ¬IsDuplicate (make (look s).2).1) :
    (course what look make s).2 = (make (look s).2).2 := by
  have hlook : look s = (.ok none, (look s).2) := Prod.ext h rfl
  rw [course, hlook]
  dsimp only
  generalize make (look s).2 = made at hmake ⊢
  obtain ⟨f | a, u⟩ := made
  · exact congrArg Prod.snd (if_neg fun hdup => hmake ⟨f, rfl, hdup⟩)
  · rfl

theorem course_of_isDuplicate (h : (look s).1 = .ok none)
    (hmake : IsDuplicate (make (look s).2).1) :
    (course what look make s).2 = (look (make (look s).2).2).2 := by
  obtain ⟨f, hf, hdup⟩ := hmake
  have hlook : look s = (.ok none, (look s).2) := Prod.ext h rfl
  have hmake : make (look s).2 = (.error f, (make (look s).2).2) := Prod.ext hf rfl
  rw [course, hlook]
  dsimp only
  rw [hmake]
  dsimp only
  rw [if_pos hdup]
  rcases look (make (look s).2).2 with ⟨g | found, v⟩
  · rfl
  · cases found <;> rfl

end Course

/-- The row that an insert gives; without one it breaks down. -/
def givenRow {α : Type} (row : Option α) : Except Failure α :=
  row.elim (.error .missingRow) .ok

namespace Program

variable {I : Interface} {α σ : Type}
  {answer : (q : I.Request) → σ → Except Failure (I.Reply q) × σ}

theorem run_call (q : I.Request) (s : σ) : run answer (call q) s = answer q s := by
  rw [call, run_ask]
  rcases answer q s with ⟨_ | _, _⟩ <;> rfl

theorem run_findOrCreate (what : String) (find : Program I (Option α)) (create : Program I α)
    (s : σ) : run answer (findOrCreate what find create) s =
      course what (run answer find) (run answer create) s := by
  rw [findOrCreate, run_bind, course]
  rcases run answer find s with ⟨f | found, t⟩
  · rfl
  cases found with
  | some a => rfl
  | none =>
    dsimp only
    rw [run_bind, run_attempt]
    rcases run answer create t with ⟨f | a, u⟩
    · dsimp only
      split
      · rw [run_bind]
        rcases run answer find u with ⟨g | found, v⟩
        · rfl
        · cases found <;> rfl
      · rfl
    · rfl

theorem run_created (insert : Program I (Option α)) (s : σ) : run answer (created insert) s =
    ((run answer insert s).1.bind givenRow, (run answer insert s).2) := by
  rw [created, run_bind]
  rcases run answer insert s with ⟨f | row, t⟩
  · rfl
  · cases row <;> rfl

end Program

namespace Search

variable {s t u : Search}

/-! ## Calls -/

/-- The reply to a look. -/
def look (s : Search) : Except Failure (Option (Option SectionRow)) × Search :=
  answer .find s

/-- The reply to an attempt to make something. -/
def make (s : Search) : Except Failure (Option SectionRow) × Search :=
  answer .make s

theorem run_eq (what : String) (s : Search) : s.run what = course what look make s := by
  have hrun := @Program.run_findOrCreate searchInterface (Option SectionRow) Search answer what
    (call .find) (call .make) s
  have hlook : @Program.run searchInterface (Option (Option SectionRow)) Search answer
      (call .find) = look :=
    funext (@Program.run_call searchInterface Search answer SearchCall.find)
  have hmake : @Program.run searchInterface (Option SectionRow) Search answer (call .make) = make :=
    funext (@Program.run_call searchInterface Search answer SearchCall.make)
  rw [run, hrun, hlook, hmake]

/-- From one state to a later one a search has looked and made something so many times. -/
structure Spent (looks makes : Nat) (s t : Search) : Prop where
  found : t.found = s.found + looks
  made : t.made = s.made + makes
  finds : t.finds = s.finds.drop looks
  creates : t.creates = s.creates
  failure : t.failure = s.failure

theorem Spent.trans {looks makes looks' makes' : Nat} (h : Spent looks makes s t)
    (h' : Spent looks' makes' t u) : Spent (looks + looks') (makes + makes') s u where
  found := by rw [h'.found, h.found, Nat.add_assoc]
  made := by rw [h'.made, h.made, Nat.add_assoc]
  finds := by rw [h'.finds, h.finds, List.drop_drop]
  creates := h'.creates.trans h.creates
  failure := h'.failure.trans h.failure

theorem spent_look (s : Search) : Spent 1 0 s s.look.2 := by
  rw [look, answer]
  dsimp only
  split <;> exact ⟨rfl, rfl, rfl, rfl, rfl⟩

theorem spent_make (s : Search) : Spent 0 1 s s.make.2 := by
  rw [make, answer]
  dsimp only
  split <;> exact ⟨rfl, rfl, rfl, rfl, rfl⟩

/-- A search makes something at most once, which is when it has found nothing, and looks twice
exactly if what it makes is there already. -/
theorem spent_run (what : String) (s : Search) :
    s.look.1 ≠ .ok none ∧ Spent 1 0 s (s.run what).2 ∨
      s.look.1 = .ok none ∧ ¬IsDuplicate s.look.2.make.1 ∧ Spent 1 1 s (s.run what).2 ∨
      s.look.1 = .ok none ∧ IsDuplicate s.look.2.make.1 ∧ Spent 2 1 s (s.run what).2 := by
  have looked := s.spent_look
  have made := looked.trans s.look.2.spent_make
  have again := made.trans s.look.2.make.2.spent_look
  rw [run_eq]
  by_cases hlook : s.look.1 = .ok none
  · by_cases hdup : IsDuplicate s.look.2.make.1
    · exact Or.inr (Or.inr ⟨hlook, hdup, by rwa [course_of_isDuplicate hlook hdup]⟩)
    · exact Or.inr (Or.inl ⟨hlook, hdup, by rwa [course_of_made hlook hdup]⟩)
  · exact Or.inl ⟨hlook, by rwa [course_of_found hlook]⟩

/-! ## The search for a section -/

/-- What the environment replies to a look for a section. -/
def lookIn (name : String) (env : Environment) :
    Except Failure (Option SectionRow) × Environment :=
  env.answerStore (.sectionByName name)

/-- What the environment replies to an attempt to make a section. -/
def makeIn (name : Option String) (env : Environment) :
    Except Failure (Option SectionRow) × Environment :=
  env.answerStore (.insertSection name)

theorem look_eq {name : String} {finds : List (Option String)} (h : s.finds = some name :: finds) :
    s.look = ((lookIn name s.env).1.map fun row => row.map some,
      { s with finds, found := s.found + 1, env := (lookIn name s.env).2 }) := by
  rw [look, answer, h]
  rfl

theorem make_eq (h : s.failure = none) :
    s.make = ((makeIn s.creates s.env).1,
      { s with made := s.made + 1, env := (makeIn s.creates s.env).2 }) := by
  rw [make, answer, h]
  rfl

theorem runStore_eq_course (env : Environment) (name : String) :
    env.runStore (resolveSection name) =
      course ("section " ++ Text.quoted name) (lookIn name)
        (fun e => ((makeIn (some name) e).1.bind givenRow, (makeIn (some name) e).2)) env := by
  let answerer (q : storeInterface.Request) (e : Environment) := Environment.answerStore q e
  have hlook : @Program.run storeInterface (Option SectionRow) Environment answerer
      (StoreCall.sectionByName name).ask = lookIn name :=
    funext (@Program.run_call storeInterface Environment answerer (.sectionByName name))
  have hinsert : @Program.run storeInterface (Option SectionRow) Environment answerer
      (StoreCall.insertSection (some name)).ask = makeIn (some name) :=
    funext (@Program.run_call storeInterface Environment answerer (.insertSection (some name)))
  have hmake := fun e => @Program.run_created storeInterface SectionRow Environment answerer
    (StoreCall.insertSection (some name)).ask e
  rw [hinsert] at hmake
  have hcourse := @Program.run_findOrCreate storeInterface SectionRow Environment answerer
    ("section " ++ Text.quoted name) (StoreCall.sectionByName name).ask
    (created (StoreCall.insertSection (some name)).ask) env
  rwa [hlook, funext hmake] at hcourse

/-- The section of a name is searched for by a script that asks for the name each time, and makes
the section of this name. An insert without a row, which the script takes as it is, breaks down. -/
theorem runStore_resolveSection (env : Environment) (name : String) :
    env.runStore (resolveSection name) =
      (((new env [some name, some name] (some name) none).run
        ("section " ++ Text.quoted name)).1.bind givenRow,
      ((new env [some name, some name] (some name) none).run
        ("section " ++ Text.quoted name)).2.env) := by
  rw [runStore_eq_course, run_eq, course, course, look_eq rfl]
  dsimp only [new]
  rcases lookIn name env with ⟨f | row, e⟩
  · rfl
  cases row with
  | some row => rfl
  | none =>
    dsimp only [Except.map, Option.map]
    rw [make_eq rfl]
    dsimp only
    rcases makeIn (some name) e with ⟨f | row, e⟩
    · dsimp only [Except.bind]
      split
      · rw [look_eq rfl]
        dsimp only
        rcases lookIn name e with ⟨g | row, e⟩
        · rfl
        · cases row <;> rfl
      · rfl
    · cases row <;> rfl

end Search

end SensorRelay
