import DistinctCount.Error

/-! Computations that may be refused: what follows from a result. -/
namespace DistinctCount

variable {α : Type}

theorem bind_eq_ok {ε β : Type} {first : Except ε α} {next : α → Except ε β} {b : β} :
    (first >>= next) = .ok b ↔ ∃ a, first = .ok a ∧ next a = .ok b := by
  cases first with
  | error e => simp [bind, Except.bind]
  | ok a => simp [bind, Except.bind]

theorem ok_bind {ε β : Type} (a : α) (next : α → Except ε β) : (.ok a >>= next) = next a := rfl

theorem bind_eq_error {ε β : Type} {first : Except ε α} {next : α → Except ε β} {e : ε} :
    (first >>= next) = .error e ↔ first = .error e ∨ ∃ a, first = .ok a ∧ next a = .error e := by
  cases first with
  | error e => simp [bind, Except.bind]
  | ok a => simp [bind, Except.bind]

theorem exists_ok_of_map {ε β : Type} {result : Except ε α} {part : α → β} {b : β}
    (known : result.toOption.map part = some b) : ∃ a, result = .ok a ∧ part a = b := by
  cases result with
  | error e => contradiction
  | ok a => exact ⟨a, rfl, Option.some.inj known⟩

theorem mem_of_mapM_eq_ok {ε β : Type} {f : α → Except ε β} {xs : List α} {ys : List β}
    (run : xs.mapM f = .ok ys) :
    (∀ x ∈ xs, ∃ y ∈ ys, f x = .ok y) ∧ ∀ y ∈ ys, ∃ x ∈ xs, f x = .ok y := by
  induction xs generalizing ys with
  | nil =>
    cases run
    exact ⟨nofun, nofun⟩
  | cons x rest ih =>
    rw [List.mapM_cons] at run
    obtain ⟨y, first, run⟩ := bind_eq_ok.mp run
    obtain ⟨others, later, run⟩ := bind_eq_ok.mp run
    cases run
    obtain ⟨forth, back⟩ := ih later
    constructor
    · rintro a (_ | ⟨_, member⟩)
      · exact ⟨y, List.mem_cons_self, first⟩
      · obtain ⟨b, listed, made⟩ := forth a member
        exact ⟨b, List.mem_cons_of_mem _ listed, made⟩
    · rintro b (_ | ⟨_, member⟩)
      · exact ⟨x, List.mem_cons_self, first⟩
      · obtain ⟨a, listed, made⟩ := back b member
        exact ⟨a, List.mem_cons_of_mem _ listed, made⟩

theorem ensure_eq_ok {ε : Type} {condition : Bool} {error : ε} :
    ensure condition error = .ok () ↔ condition = true := by
  cases condition <;> simp [ensure]

theorem ensure_bind_eq_ok {ε β : Type} {condition : Bool} {error : ε} {next : Unit → Except ε β}
    {b : β} :
    (ensure condition error >>= next) = .ok b ↔ condition = true ∧ next () = .ok b := by
  rw [bind_eq_ok, ← @ensure_eq_ok ε condition error]
  constructor
  · rintro ⟨_, passed, rest⟩
    exact ⟨passed, rest⟩
  · rintro ⟨passed, rest⟩
    exact ⟨(), passed, rest⟩

namespace Failure

theorem ofError_eq_ok {result : Except Error α} {a : α} : ofError result = .ok a ↔ result = .ok a := by
  cases result <;> simp [ofError]

theorem ofImage_eq_ok {result : Except ImageError α} {a : α} :
    ofImage result = .ok a ↔ result = .ok a := by
  cases result <;> simp [ofImage]

theorem ofFault_eq_ok {result : Except Fault α} {a : α} : ofFault result = .ok a ↔ result = .ok a := by
  cases result <;> simp [ofFault]

/-! Refused data is never a fault. -/

variable {fault : Fault}

theorem ofError_ne_fault {result : Except Error α} : ofError result ≠ .error (.fault fault) := by
  cases result <;> simp [ofError]

theorem ofImage_ne_fault {result : Except ImageError α} : ofImage result ≠ .error (.fault fault) := by
  cases result <;> simp [ofImage]

theorem ofFault_eq_fault {result : Except Fault α} :
    ofFault result = .error (.fault fault) ↔ result = .error fault := by
  cases result <;> simp [ofFault]

theorem ofFault_bind {β : Type} (first : Except Fault α) (next : α → Except Fault β) :
    ofFault (first >>= next) = ofFault first >>= fun a => ofFault (next a) := by
  cases first <;> rfl

theorem ofFault_ne_error {result : Except Fault α} {error : Error} :
    ofFault result ≠ .error (.error error) := by
  cases result <;> simp [ofFault]

end Failure
end DistinctCount
