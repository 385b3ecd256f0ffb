import GenericSignature.Proofs.Following
import GenericSignature.Proofs.Lookahead

/-!
# Readers that decide a language

A reader of whole texts decides a language when it follows the language, reads every text of it to
the end, and looks one character ahead.  From that alone:

1. it reads a text exactly if the text belongs to the language (`Decides.reads_iff`);
2. a text has one value at most (`Decides.unambiguous`);
3. a text outside of the language has a fault, and the fault is found as early as it can be: what
   stands before it begins some text of the language (`Decides.viable`), and with the character at
   the fault it begins none (`Decides.closed`).
-/

namespace GenericSignature.Grammar

variable {α : Type}

/-- The readers, one for each depth, decide the language on texts that are no longer than the
depth. -/
structure Decides (reader : Nat → Reader α) (L : Language α) : Prop where
  follows : ∀ depth, (reader depth).Follows L
  accepts : ∀ {text value}, L text value → (reader text.length).Reads text value []
  exhausts : ∀ {depth text value rest}, (reader depth).Reads text value rest → rest = []
  alike : ∀ m n, Reader.Alike m n (reader m) (reader n)

namespace Decides

variable {reader : Nat → Reader α} {L : Language α} {text rest : List Char} {value : α}

theorem reads_iff (decides : Decides reader L) :
    (Reader.sized reader).Reads text value rest ↔ L text value ∧ rest = [] := by
  constructor
  · intro reads
    obtain rfl := decides.exhausts reads
    obtain ⟨read, split, member⟩ := (decides.follows text.length).sound reads
    rw [List.append_nil] at split
    exact ⟨split ▸ member, rfl⟩
  · rintro ⟨member, rfl⟩
    exact decides.accepts member

theorem unambiguous (decides : Decides reader L) {value' : α} (member : L text value)
    (member' : L text value') : value = value' :=
  ((decides.accepts member).unique (decides.accepts member')).1

theorem faults_iff (decides : Decides reader L) :
    (∃ fault rest, (Reader.sized reader).Faults text fault rest) ↔ ∀ value, ¬ L text value := by
  constructor
  · rintro ⟨fault, rest, faults⟩ value member
    exact (decides.reads_iff.mpr ⟨member, rfl⟩).not_faults faults
  · intro none
    rcases (Reader.sized reader).reads_or_faults text with ⟨value, rest, reads⟩ | faults
    · exact absurd (decides.reads_iff.mp reads).1 (none value)
    · exact faults

theorem viable (decides : Decides reader L) {fault : Fault}
    (faults : (Reader.sized reader).Faults text fault rest) :
    ∃ read more value, text = read ++ rest ∧ L (read ++ more) value :=
  (decides.follows text.length).viable faults

/-- A text that begins like one with a fault, up to the character at the fault, has the fault
too. -/
theorem closed (decides : Decides reader L) {read more : List Char} {c : Char} {fault : Fault}
    (faults : (Reader.sized reader).Faults (read ++ c :: rest) fault (c :: rest)) :
    ¬ L (read ++ c :: more) value := by
  intro member
  obtain ⟨failed, left⟩ := faults
  rcases reply : (Reader.sized reader).run (read ++ c :: rest) with ⟨result, remains, names⟩
  rw [reply] at failed left
  obtain ⟨rfl, rfl⟩ : result = .error fault ∧ remains = c :: rest := ⟨failed, left⟩
  have same : (c :: rest).head? = (c :: more).head? := rfl
  have failed' := decides.alike _ (read ++ c :: more).length same (Nat.le_refl _)
    (Nat.le_refl _) reply
  have reads := decides.accepts member
  unfold Reader.Reads at reads
  rw [failed'] at reads
  cases reads.1

end Decides

end GenericSignature.Grammar
