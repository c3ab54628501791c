import Mathlib.Data.List.Basic

/-! Byte transports that give and take bytes in pieces of any size, and the loops that read a
whole buffer and write a whole buffer over them.

A loop has fuel for its calls of the transport. `none` is a loop that has not returned yet.
-/

set_option autoImplicit false

namespace Lib.Pieces

variable {E T : Type}

structure Transport (E T : Type) where
  /-- At most so many bytes; none of them at the end of the stream. -/
  read : T → Nat → T × Except E (List UInt8)
  /-- How many of the bytes were taken. -/
  write : T → List UInt8 → T × Except E Nat
  flush : T → T × Except E Unit

/-- The errors that the loops know of. -/
structure Conventions (E : Type) where
  interrupted : E → Bool
  eof : E
  writeZero : E

/-- With enough fuel the loop returns, always the same result, and that meets the postcondition. -/
def Eventually {A : Type} (loop : Nat → Option A) (post : A → Prop) : Prop :=
  ∃ enough result, (∀ fuel, enough ≤ fuel → loop fuel = some result) ∧ post result

section
variable {A B : Type} {loop next : Nat → Option A} {post : A → Prop}

theorem Eventually.now (result : A) (returns : ∀ fuel, loop (fuel + 1) = some result) (met : post result) :
    Eventually loop post := by
  refine ⟨1, result, fun fuel more => ?_, met⟩
  obtain ⟨fuel, rfl⟩ := Nat.exists_eq_add_of_le' more
  exact returns fuel

/-- One more call than what follows it needs. -/
theorem Eventually.later (again : ∀ fuel, loop (fuel + 1) = next fuel) (rest : Eventually next post) :
    Eventually loop post := by
  obtain ⟨enough, result, returns, met⟩ := rest
  refine ⟨enough + 1, result, fun fuel more => ?_, met⟩
  obtain ⟨fuel, rfl⟩ := Nat.exists_eq_add_of_le' more
  rw [← Nat.add_assoc, again]
  exact returns _ (Nat.le_add_left _ _)

theorem Eventually.mono {other : A → Prop} (returns : Eventually loop post)
    (weaker : ∀ result, post result → other result) : Eventually loop other := by
  obtain ⟨enough, result, same, met⟩ := returns
  exact ⟨enough, result, same, weaker result met⟩

/-- A loop, and then what follows its result. -/
theorem Eventually.bind {first : Nat → Option B} {middle : B → Prop} {rest : Nat → B → Option A}
    (returns : Eventually first middle) (follows : ∀ result, middle result → Eventually (rest · result) post) :
    Eventually (fun fuel => (first fuel).bind (rest fuel)) post := by
  obtain ⟨enough, result, same, met⟩ := returns
  obtain ⟨more, last, also, final⟩ := follows result met
  refine ⟨max enough more, last, fun fuel bound => ?_, final⟩
  dsimp only
  rw [same fuel (Nat.le_trans (Nat.le_max_left _ _) bound), Option.bind_some]
  exact also fuel (Nat.le_trans (Nat.le_max_right _ _) bound)

theorem Eventually.pure {result : A} (met : post result) : Eventually (fun _ => some result) post :=
  ⟨0, result, fun _ _ => rfl, met⟩

end

variable (conventions : Conventions E) (transport : Transport E T)

/-- Fill a buffer of which a part is filled. Returns the buffer as it is left. -/
def readExact : Nat → T → List UInt8 → List UInt8 → Option (T × List UInt8 × Except E Unit)
  | _, io, filled, [] => some (io, filled, .ok ())
  | 0, _, _, _ :: _ => none
  | fuel + 1, io, filled, byte :: rest =>
      match transport.read io (rest.length + 1) with
      | (io, .ok []) => some (io, filled ++ byte :: rest, .error conventions.eof)
      | (io, .ok (first :: piece)) =>
          readExact fuel io (filled ++ first :: piece) ((byte :: rest).drop (piece.length + 1))
      | (io, .error error) =>
          if conventions.interrupted error then readExact fuel io filled (byte :: rest)
          else some (io, filled ++ byte :: rest, .error error)

def writeAll : Nat → T → List UInt8 → Option (T × Except E Unit)
  | _, io, [] => some (io, .ok ())
  | 0, _, _ :: _ => none
  | fuel + 1, io, byte :: rest =>
      match transport.write io (byte :: rest) with
      | (io, .ok 0) => some (io, .error conventions.writeZero)
      | (io, .ok (count + 1)) => writeAll fuel io (rest.drop count)
      | (io, .error error) =>
          if conventions.interrupted error then writeAll fuel io (byte :: rest) else some (io, .error error)

/-- What the buffer held is overwritten where the loop succeeds, and never read. -/
theorem readExact_storage (fuel : Nat) (io : T) (filled : List UInt8) {rest other : List UInt8}
    (length : rest.length = other.length) :
    Option.Rel (fun a b => a.1 = b.1 ∧ a.2.2 = b.2.2 ∧ (a.2.2 = .ok () → a.2.1 = b.2.1))
      (readExact conventions transport fuel io filled rest) (readExact conventions transport fuel io filled other) := by
  induction fuel generalizing io filled rest other with
  | zero =>
      cases rest with
      | nil =>
          obtain rfl := List.eq_nil_of_length_eq_zero length.symm
          exact .some ⟨rfl, rfl, fun _ => rfl⟩
      | cons byte rest =>
          obtain ⟨byte', rest', rfl⟩ := List.exists_cons_of_length_eq_add_one length.symm
          exact .none
  | succ fuel ih =>
      cases rest with
      | nil =>
          obtain rfl := List.eq_nil_of_length_eq_zero length.symm
          exact .some ⟨rfl, rfl, fun _ => rfl⟩
      | cons byte rest =>
          obtain ⟨byte', rest', rfl⟩ := List.exists_cons_of_length_eq_add_one length.symm
          have tails : rest.length = rest'.length := Nat.succ.inj length
          simp only [readExact, ← tails]
          rcases transport.read io (rest.length + 1) with ⟨next, error | _ | ⟨first, piece⟩⟩
          · dsimp only
            split
            · exact ih _ _ length
            · exact .some ⟨rfl, rfl, nofun⟩
          · exact .some ⟨rfl, rfl, nofun⟩
          · refine ih _ _ ?_
            rw [List.length_drop, List.length_drop, length]

/-- A transport to read from: the bytes still to come, and how often it may still interrupt. -/
structure Source (conventions : Conventions E) (transport : Transport E T) where
  content : T → List UInt8
  patience : T → Nat
  gave : ∀ {io next : T} {count : Nat} {piece : List UInt8}, transport.read io count = (next, .ok piece) →
    content io = piece ++ content next ∧ piece.length ≤ count ∧ patience next ≤ patience io
  ended : ∀ {io next : T} {count : Nat}, transport.read io (count + 1) = (next, .ok []) → content io = []
  failed : ∀ {io next : T} {count : Nat} {error : E}, transport.read io count = (next, .error error) →
    content next = content io ∧ (conventions.interrupted error = true → patience next < patience io)

/-- A transport to write to that takes bytes or interrupts: the bytes written so far. -/
structure Sink (conventions : Conventions E) (transport : Transport E T) where
  written : T → List UInt8
  patience : T → Nat
  took : ∀ {io next : T} {bytes : List UInt8} {count : Nat}, transport.write io bytes = (next, .ok count) →
    written next = written io ++ bytes.take count ∧ patience next ≤ patience io ∧ (bytes ≠ [] → count ≠ 0)
  failed : ∀ {io next : T} {bytes : List UInt8} {error : E}, transport.write io bytes = (next, .error error) →
    written next = written io ∧ conventions.interrupted error = true ∧ patience next < patience io
  flushed : ∀ io, ∃ next, transport.flush io = (next, .ok ()) ∧ written next = written io

/-- No read fails in another way than by being interrupted. -/
def Steady : Prop :=
  ∀ io next count error, transport.read io count = (next, .error error) → conventions.interrupted error = true

section
variable {conventions} {transport} (source : Source conventions transport)

/-- How reading into a buffer can end. -/
inductive Ends (io : T) (filled rest : List UInt8) : T × List UInt8 × Except E Unit → Prop where
  | full {next : T} {bytes : List UInt8} : source.content io = bytes ++ source.content next →
      bytes.length = rest.length → Ends io filled rest (next, filled ++ bytes, .ok ())
  | eof {next : T} {buffer : List UInt8} : (source.content io).length < rest.length → source.content next = [] →
      buffer.length = filled.length + rest.length → Ends io filled rest (next, buffer, .error conventions.eof)
  | failed {next : T} {bytes buffer : List UInt8} {error : E} : source.content io = bytes ++ source.content next →
      bytes.length < rest.length → ¬ Steady conventions transport → buffer.length = filled.length + rest.length →
      Ends io filled rest (next, buffer, .error error)

variable {source}

/-- The end of the rest is the end of the whole. -/
theorem Ends.after {io next : T} {filled rest : List UInt8} (piece : List UInt8)
    {result : T × List UInt8 × Except E Unit}
    (ends : Ends source next (filled ++ piece) (rest.drop piece.length) result)
    (gave : source.content io = piece ++ source.content next) (short : piece.length ≤ rest.length) :
    Ends source io filled rest result := by
  have sized {buffer : List UInt8}
      (length : buffer.length = (filled ++ piece).length + (rest.drop piece.length).length) :
      buffer.length = filled.length + rest.length := by
    rw [length, List.length_append, List.length_drop]
    omega
  cases ends with
  | full comes length =>
      rw [List.append_assoc]
      refine .full ?_ ?_
      · rw [gave, comes, List.append_assoc]
      · rw [List.length_append, length, List.length_drop]
        omega
  | eof few drained length =>
      refine .eof ?_ drained (sized length)
      rw [gave, List.length_append]
      rw [List.length_drop] at few
      omega
  | failed comes few unsteady length =>
      refine .failed (by rw [gave, comes, List.append_assoc]) ?_ unsteady (sized length)
      rw [List.length_drop] at few
      rw [List.length_append]
      omega

/-- The loop returns, and it reads what the buffer needs or all there is. -/
theorem Source.readExact_ends (source : Source conventions transport) (io : T) (filled rest : List UInt8) :
    Eventually (readExact conventions transport · io filled rest) (Ends source io filled rest) := by
  -- Every call that is repeated was interrupted or made the rest of the buffer shorter.
  induction work : source.patience io + rest.length using Nat.strongRecOn generalizing io filled rest with
  | ind work ih =>
      cases rest with
      | nil =>
          refine ⟨0, (io, filled, .ok ()), fun fuel _ => by cases fuel <;> rfl, ?_⟩
          have none : Ends source io filled [] (io, filled ++ [], .ok ()) := .full rfl rfl
          rwa [List.append_nil] at none
      | cons byte rest =>
          rw [List.length_cons] at work
          rcases called : transport.read io (rest.length + 1) with ⟨next, error | _ | ⟨first, piece⟩⟩
          · obtain ⟨kept, patient⟩ := source.failed called
            cases interrupted : conventions.interrupted error with
            | true =>
                have fewer : source.patience next < source.patience io := patient interrupted
                have again := ih _ (by simp only [List.length_cons]; omega) next filled (byte :: rest) rfl
                refine .later (fun fuel => ?_) (again.mono fun result ends => ?_)
                · simp only [readExact, called, interrupted, if_true]
                · rw [← List.append_nil filled] at ends
                  exact ends.after [] kept.symm (Nat.zero_le _)
            | false =>
                refine .now (next, filled ++ byte :: rest, .error error) (fun fuel => ?_) ?_
                · simp only [readExact, called, interrupted, Bool.false_eq_true, if_false]
                · have none : source.content io = [] ++ source.content next := kept.symm
                  refine .failed none (by simp) (fun steady => ?_) (by simp)
                  rw [steady _ _ _ _ called] at interrupted
                  cases interrupted
          · have drained : source.content io = [] := source.ended called
            obtain ⟨gave, -⟩ := source.gave called
            refine .now (next, filled ++ byte :: rest, .error conventions.eof) (fun fuel => ?_) ?_
            · simp only [readExact, called]
            · exact .eof (by simp [drained]) (by rw [← List.nil_append (source.content next), ← gave, drained]) (by simp)
          · obtain ⟨gave, short, patient⟩ := source.gave called
            rw [List.length_cons] at short
            have again := ih _ (by simp only [List.length_drop, List.length_cons]; omega) next
              (filled ++ first :: piece) ((byte :: rest).drop (piece.length + 1)) rfl
            refine .later (fun fuel => ?_) (again.mono fun result ends => ?_)
            · simp only [readExact, called]
            · exact ends.after (first :: piece) gave (by simpa using short)

end

/-- The loop returns, and it wrote the whole buffer. -/
theorem Sink.writeAll_ends {conventions : Conventions E} {transport : Transport E T} (sink : Sink conventions transport)
    (io : T) (bytes : List UInt8) :
    Eventually (writeAll conventions transport · io bytes)
      fun (next, result) => result = .ok () ∧ sink.written next = sink.written io ++ bytes := by
  induction work : sink.patience io + bytes.length using Nat.strongRecOn generalizing io bytes with
  | ind work ih =>
      cases bytes with
      | nil => exact ⟨0, (io, .ok ()), fun fuel _ => by cases fuel <;> rfl, rfl, by simp⟩
      | cons byte rest =>
          rw [List.length_cons] at work
          rcases called : transport.write io (byte :: rest) with ⟨next, error | _ | count⟩
          · obtain ⟨kept, interrupted, patient⟩ := sink.failed called
            have again := ih _ (by simp only [List.length_cons]; omega) next (byte :: rest) rfl
            refine .later (fun fuel => ?_) (again.mono fun result met => kept ▸ met)
            simp only [writeAll, called, interrupted, if_true]
          · obtain ⟨-, -, some_⟩ := sink.took called
            exact absurd rfl (some_ (List.cons_ne_nil _ _))
          · obtain ⟨took, patient, -⟩ := sink.took called
            have again := ih _ (by simp only [List.length_drop]; omega) next (rest.drop count) rfl
            refine .later (fun fuel => ?_) (again.mono fun result met => ⟨met.1, ?_⟩)
            · simp only [writeAll, called]
            · rw [met.2, took, List.take_succ_cons, List.append_assoc, List.cons_append, List.take_append_drop]

end Lib.Pieces
