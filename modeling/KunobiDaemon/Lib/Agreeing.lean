import KunobiDaemon.Lib.Duplex
import KunobiDaemon.Lib.Pieces

/-! Programs that do the same, up to the errors they are given.

Two programs agree when they do the same operations as long as their replies are alike. They then
do the same to any transport whose errors they are told alike, alone or one of a pair.
-/

set_option autoImplicit false

namespace Lib.Agreeing

open Lib.Duplex
open Lib.Pieces
open Lib.Streams
open Lib.Streams.Process

variable {E A B C D : Type} {R : E → E → Prop} {S : A → B → Prop}

/-- Both succeeded with values that are alike, or both failed with errors that are alike. -/
inductive Alike (R : E → E → Prop) (S : A → B → Prop) : Except E A → Except E B → Prop where
  | ok {a : A} {b : B} : S a b → Alike R S (.ok a) (.ok b)
  | error {e f : E} : R e f → Alike R S (.error e) (.error f)

theorem Alike.refl (same : ∀ error, R error error) (result : Except E A) : Alike R Eq result result := by
  cases result with
  | error error => exact .error (same error)
  | ok value => exact .ok rfl

theorem Alike.map {f : A → B} {result other : Except E A} (alike : Alike R Eq result other) :
    Alike R Eq (result.map f) (other.map f) := by
  cases alike with
  | ok same => exact .ok (congrArg f same)
  | error same => exact .error same

inductive Agree (R : E → E → Prop) (post : A → B → Prop) : Process E A → Process E B → Prop where
  | done {a : A} {b : B} : post a b → Agree R post (.done a) (.done b)
  | write {bytes : List UInt8} {next : Except E Unit → Process E A} {other : Except E Unit → Process E B} :
      (∀ reply reply', Alike R Eq reply reply' → Agree R post (next reply) (other reply')) →
      Agree R post (.write bytes next) (.write bytes other)
  | flush {next : Except E Unit → Process E A} {other : Except E Unit → Process E B} :
      (∀ reply reply', Alike R Eq reply reply' → Agree R post (next reply) (other reply')) →
      Agree R post (.flush next) (.flush other)
  | read {count : Nat} {next : Except E (List UInt8) → Process E A} {other : Except E (List UInt8) → Process E B} :
      (∀ reply reply', Alike R Eq reply reply' → Agree R post (next reply) (other reply')) →
      Agree R post (.read count next) (.read count other)

section
variable {post : C → D → Prop}

theorem Agree.bind {p : Process E A} {q : Process E B} {next : A → Process E C} {other : B → Process E D}
    (first : Agree R S p q) (rest : ∀ a b, S a b → Agree R post (next a) (other b)) :
    Agree R post (p.bind next) (q.bind other) := by
  induction first with
  | done met => exact rest _ _ met
  | write _ ih => exact .write ih
  | flush _ ih => exact .flush ih
  | read _ ih => exact .read ih

theorem Agree.mono {other : A → B → Prop} {p : Process E A} {q : Process E B} (agree : Agree R S p q)
    (weaker : ∀ a b, S a b → other a b) : Agree R other p q := by
  induction agree with
  | done met => exact .done (weaker _ _ met)
  | write _ ih => exact .write ih
  | flush _ ih => exact .flush ih
  | read _ ih => exact .read ih

/-- Change what one of them returns. -/
theorem Agree.map_left {f : A → C} {post : C → B → Prop} {p : Process E A} {q : Process E B} (agree : Agree R S p q)
    (met : ∀ a b, S a b → post (f a) b) : Agree R post (p.bind fun a => .done (f a)) q := by
  induction agree with
  | done same => exact .done (met _ _ same)
  | write _ ih => exact .write ih
  | flush _ ih => exact .flush ih
  | read _ ih => exact .read ih

theorem Agree.symm {p : Process E A} {q : Process E B} (symmetric : ∀ e f, R e f → R f e) (agree : Agree R S p q) :
    Agree R (fun b a => S a b) q p := by
  have back {V : Type} {reply reply' : Except E V} (alike : Alike R Eq reply reply') : Alike R Eq reply' reply := by
    cases alike with
    | ok same => exact .ok same.symm
    | error same => exact .error (symmetric _ _ same)
  induction agree with
  | done met => exact .done met
  | write _ ih => exact .write fun reply reply' alike => ih reply' reply (back alike)
  | flush _ ih => exact .flush fun reply reply' alike => ih reply' reply (back alike)
  | read _ ih => exact .read fun reply reply' alike => ih reply' reply (back alike)

theorem Agree.trans {post : B → C → Prop} {p : Process E A} {q : Process E B} {r : Process E C}
    (same : ∀ error, R error error) (first : Agree R S p q) (second : Agree R post q r) :
    Agree R (fun a c => ∃ b, S a b ∧ post b c) p r := by
  induction first generalizing r with
  | done met =>
      cases second with
      | done also => exact .done ⟨_, met, also⟩
  | write _ ih =>
      cases second with
      | write goes => exact .write fun reply reply' alike => ih reply reply (.refl same reply) (goes reply reply' alike)
  | flush _ ih =>
      cases second with
      | flush goes => exact .flush fun reply reply' alike => ih reply reply (.refl same reply) (goes reply reply' alike)
  | read _ ih =>
      cases second with
      | read goes => exact .read fun reply reply' alike => ih reply reply (.refl same reply) (goes reply reply' alike)

theorem agree_attempt {result : Except E A} {other : Except E B} (alike : Alike R S result other)
    {next : A → Process E (Except E C)} {next' : B → Process E (Except E D)}
    (rest : ∀ a b, S a b → Agree R (Alike R post) (next a) (next' b)) :
    Agree R (Alike R post) (attempt result next) (attempt other next') := by
  cases alike with
  | ok same => exact rest _ _ same
  | error same => exact .done (.error same)

theorem agree_attemptIn {G H : Type} {self : G} {self' : H} {post : G × Except E C → H × Except E D → Prop}
    {result : Except E A} {other : Except E B} (alike : Alike R S result other)
    (fails : ∀ e f, R e f → post (self, .error e) (self', .error f)) {next : A → Process E (G × Except E C)}
    {next' : B → Process E (H × Except E D)} (rest : ∀ a b, S a b → Agree R post (next a) (next' b)) :
    Agree R post (attemptIn self result next) (attemptIn self' other next') := by
  cases alike with
  | ok same => exact rest _ _ same
  | error same => exact .done (fails _ _ same)

theorem agree_ite {condition : Prop} [Decidable condition] {p p' : Process E A} {q q' : Process E B}
    (yes : condition → Agree R S p q) (no : ¬ condition → Agree R S p' q') :
    Agree R S (if condition then p else p') (if condition then q else q') := by
  by_cases holds : condition
  · rw [if_pos holds, if_pos holds]
    exact yes holds
  · rw [if_neg holds, if_neg holds]
    exact no holds

end

/-! ## Over a transport -/

section
variable {T : Type}

/-- Run a program over a transport, with the loops of its convention. -/
def perform (conventions : Conventions E) (transport : Transport E T) (fuel : Nat) : Process E A → T → Option (T × A)
  | .done result, io => some (io, result)
  | .write bytes next, io =>
      (writeAll conventions transport fuel io bytes).bind fun (io, reply) =>
        perform conventions transport fuel (next reply) io
  | .flush next, io =>
      let (io, reply) := transport.flush io
      perform conventions transport fuel (next reply) io
  | .read count next, io =>
      (readExact conventions transport fuel io [] (List.replicate count 0)).bind fun (io, buffer, reply) =>
        perform conventions transport fuel (next (reply.map fun _ => buffer)) io

/-- A call of the transport that is interrupted uses up some of its patience. -/
structure Patient (conventions : Conventions E) (transport : Transport E T) (patience : T → Nat) : Prop where
  read : ∀ {io count next error}, transport.read io count = (next, .error error) →
    conventions.interrupted error = true → patience next < patience io
  write : ∀ {io bytes next error}, transport.write io bytes = (next, .error error) →
    conventions.interrupted error = true → patience next < patience io

/-- Loops that repeat the same calls, and make errors that are alike. -/
structure SameLoops (R : E → E → Prop) (one other : Conventions E) : Prop where
  refl : ∀ error, R error error
  interrupted : ∀ error, other.interrupted error = one.interrupted error
  eof : R one.eof other.eof
  writeZero : R one.writeZero other.writeZero

variable {one other : Conventions E} {transport : Transport E T}

section
variable (loops : SameLoops R one other)
include loops

theorem readExact_alike (transport : Transport E T) (fuel : Nat) (io : T) (filled rest : List UInt8) :
    Option.Rel (fun a b => a.1 = b.1 ∧ a.2.1 = b.2.1 ∧ Alike R Eq a.2.2 b.2.2)
      (readExact one transport fuel io filled rest) (readExact other transport fuel io filled rest) := by
  induction fuel generalizing io filled rest with
  | zero =>
      cases rest with
      | nil => exact .some ⟨rfl, rfl, .ok rfl⟩
      | cons byte rest => exact .none
  | succ fuel ih =>
      cases rest with
      | nil => exact .some ⟨rfl, rfl, .ok rfl⟩
      | cons byte rest =>
          rcases called : transport.read io (rest.length + 1) with ⟨next, error | _ | ⟨first, piece⟩⟩
          · simp only [readExact, called, loops.interrupted]
            split
            · exact ih _ _ _
            · exact .some ⟨rfl, rfl, .error (loops.refl error)⟩
          · simp only [readExact, called]
            exact .some ⟨rfl, rfl, .error loops.eof⟩
          · simp only [readExact, called]
            exact ih _ _ _

theorem writeAll_alike (transport : Transport E T) (fuel : Nat) (io : T) (bytes : List UInt8) :
    Option.Rel (fun a b => a.1 = b.1 ∧ Alike R Eq a.2 b.2)
      (writeAll one transport fuel io bytes) (writeAll other transport fuel io bytes) := by
  induction fuel generalizing io bytes with
  | zero =>
      cases bytes with
      | nil => exact .some ⟨rfl, .ok rfl⟩
      | cons byte rest => exact .none
  | succ fuel ih =>
      cases bytes with
      | nil => exact .some ⟨rfl, .ok rfl⟩
      | cons byte rest =>
          rcases called : transport.write io (byte :: rest) with ⟨next, error | _ | count⟩
          · simp only [writeAll, called, loops.interrupted]
            split
            · exact ih _ _
            · exact .some ⟨rfl, .error (loops.refl error)⟩
          · simp only [writeAll, called]
            exact .some ⟨rfl, .error loops.writeZero⟩
          · simp only [writeAll, called]
            exact ih _ _

/-- Programs that agree do the same to a transport. -/
theorem perform_alike {p : Process E A} {q : Process E B} (agree : Agree R S p q) (fuel : Nat) (io : T) :
    Option.Rel (fun a b => a.1 = b.1 ∧ S a.2 b.2) (perform one transport fuel p io) (perform other transport fuel q io) := by
  induction agree generalizing io with
  | done met => exact .some ⟨rfl, met⟩
  | @write bytes next next' _ ih =>
      have replies := writeAll_alike loops transport fuel io bytes
      simp only [perform]
      generalize writeAll one transport fuel io bytes = first at replies
      generalize writeAll other transport fuel io bytes = second at replies
      cases replies with
      | none => exact .none
      | some met =>
          obtain ⟨same, alike⟩ := met
          simp only [Option.bind_some, same]
          exact ih _ _ alike _
  | flush _ ih => exact ih _ _ (.refl loops.refl _) _
  | @read count next next' _ ih =>
      have replies := readExact_alike loops transport fuel io [] (List.replicate count 0)
      simp only [perform]
      generalize readExact one transport fuel io [] (List.replicate count 0) = first at replies
      generalize readExact other transport fuel io [] (List.replicate count 0) = second at replies
      cases replies with
      | none => exact .none
      | some met =>
          obtain ⟨same, buffer, alike⟩ := met
          simp only [Option.bind_some, same, buffer]
          exact ih _ _ alike.map _

end

section
variable {patience : T → Nat} (patient : Patient one transport patience)
include patient

/-- Every call gives a byte, ends the loop or costs patience. -/
theorem readExact_returns (io : T) (filled rest : List UInt8) :
    Eventually (readExact one transport · io filled rest) fun _ => True := by
  induction size : rest.length using Nat.strongRecOn generalizing io filled rest with
  | ind total shorter =>
      induction left : patience io using Nat.strongRecOn generalizing io with
      | ind amount sooner =>
          cases rest with
          | nil => exact ⟨0, _, fun fuel _ => by cases fuel <;> rfl, trivial⟩
          | cons byte rest =>
              rcases called : transport.read io (rest.length + 1) with ⟨next, error | _ | ⟨first, piece⟩⟩
              · by_cases again : one.interrupted error = true
                · refine .later (fun fuel => ?_) (sooner _ (left ▸ patient.read called again) next rfl)
                  simp only [readExact, called, if_pos again]
                · refine .now (next, filled ++ byte :: rest, .error error) (fun fuel => ?_) trivial
                  simp only [readExact, called, if_neg again]
              · refine .now (next, filled ++ byte :: rest, .error one.eof) (fun fuel => ?_) trivial
                simp only [readExact, called]
              · have fewer : ((byte :: rest).drop (piece.length + 1)).length < total := by
                  rw [← size, List.length_drop, List.length_cons]
                  omega
                refine .later (fun fuel => ?_) (shorter _ fewer next (filled ++ first :: piece) _ rfl)
                simp only [readExact, called]

theorem writeAll_returns (io : T) (bytes : List UInt8) :
    Eventually (writeAll one transport · io bytes) fun _ => True := by
  induction size : bytes.length using Nat.strongRecOn generalizing io bytes with
  | ind total shorter =>
      induction left : patience io using Nat.strongRecOn generalizing io with
      | ind amount sooner =>
          cases bytes with
          | nil => exact ⟨0, _, fun fuel _ => by cases fuel <;> rfl, trivial⟩
          | cons byte rest =>
              rcases called : transport.write io (byte :: rest) with ⟨next, error | _ | count⟩
              · by_cases again : one.interrupted error = true
                · refine .later (fun fuel => ?_) (sooner _ (left ▸ patient.write called again) next rfl)
                  simp only [writeAll, called, if_pos again]
                · refine .now (next, .error error) (fun fuel => ?_) trivial
                  simp only [writeAll, called, if_neg again]
              · refine .now (next, .error one.writeZero) (fun fuel => ?_) trivial
                simp only [writeAll, called]
              · have fewer : (rest.drop count).length < total := by
                  rw [← size, List.length_drop, List.length_cons]
                  omega
                refine .later (fun fuel => ?_) (shorter _ fewer next _ rfl)
                simp only [writeAll, called]

theorem perform_returns (p : Process E A) (io : T) : Eventually (perform one transport · p io) fun _ => True := by
  induction p generalizing io with
  | done result => exact .pure trivial
  | write bytes next ih => exact .bind (writeAll_returns patient io bytes) fun result _ => ih _ _
  | flush next ih => exact ih _ _
  | read count next ih => exact .bind (readExact_returns patient io [] _) fun result _ => ih _ _

end

end

/-! ## One of a pair -/

/-- A pair whose sides are told of a closed end each in their own way. -/
inductive Moves (left right : Faults E) (net : Net E A) : Net E A → Prop where
  | left {side : Process E (Except E A)} {inbox sent : List UInt8} :
      Io left (gone net.right) net.left net.toLeft side inbox sent →
      Moves left right net ⟨side, net.right, inbox, net.toRight ++ sent⟩
  | right {side : Process E (Except E A)} {inbox sent : List UInt8} :
      Io right (gone net.left) net.right net.toRight side inbox sent →
      Moves left right net ⟨net.left, side, net.toLeft ++ sent, inbox⟩

theorem move_iff_moves {faults : Faults E} {net next : Net E A} : Move faults net next ↔ Moves faults faults net next := by
  constructor
  · rintro (io | io)
    · exact .left io
    · exact .right io
  · rintro (io | io)
    · exact .left io
    · exact .right io

structure SameFaults (R : E → E → Prop) (one other : Faults E) : Prop where
  eof : R one.eof other.eof
  broken : R one.broken other.broken

/-- Two pairs with the same bytes on the way, whose sides agree. -/
structure Similar (R : E → E → Prop) (S : A → B → Prop) (net : Net E A) (other : Net E B) : Prop where
  left : Agree R (Alike R S) net.left other.left
  right : Agree R (Alike R S) net.right other.right
  toLeft : net.toLeft = other.toLeft
  toRight : net.toRight = other.toRight

theorem gone_eq {p : Process E (Except E A)} {q : Process E (Except E B)} (agree : Agree R (Alike R S) p q) :
    gone p = gone q := by
  cases agree with
  | done alike => cases alike <;> rfl
  | _ => rfl

theorem io_alike {one other : Faults E} (faults : SameFaults R one other) {closed : Bool} {p next : Process E (Except E A)}
    {q : Process E (Except E B)} {inbox rest sent : List UInt8} (agree : Agree R (Alike R S) p q)
    (io : Io one closed p inbox next rest sent) :
    ∃ next', Io other closed q inbox next' rest sent ∧ Agree R (Alike R S) next next' := by
  cases io with
  | wrote some_ =>
      cases agree with
      | write goes => exact ⟨_, .wrote some_, .write goes⟩
  | written =>
      cases agree with
      | write goes => exact ⟨_, .written, goes _ _ (.ok rfl)⟩
  | flushed =>
      cases agree with
      | flush goes => exact ⟨_, .flushed, goes _ _ (.ok rfl)⟩
  | took some_ =>
      cases agree with
      | read goes => exact ⟨_, .took some_, .read fun reply reply' alike => goes _ _ alike.map⟩
  | filled =>
      cases agree with
      | read goes => exact ⟨_, .filled, goes _ _ (.ok rfl)⟩
  | ended shut =>
      cases agree with
      | read goes => exact ⟨_, .ended shut, goes _ _ (.error faults.eof)⟩
  | writeFailed shut =>
      cases agree with
      | write goes => exact ⟨_, .writeFailed shut, goes _ _ (.error faults.broken)⟩
  | flushFailed shut =>
      cases agree with
      | flush goes => exact ⟨_, .flushFailed shut, goes _ _ (.error faults.broken)⟩

section
variable {left right left' right' : Faults E} (lefts : SameFaults R left left') (rights : SameFaults R right right')
include lefts rights

theorem Similar.step {net next : Net E A} {other : Net E B} (similar : Similar R S net other)
    (moves : Moves left right net next) : ∃ next', Moves left' right' other next' ∧ Similar R S next next' := by
  cases moves with
  | left io =>
      obtain ⟨side, io, agree⟩ := io_alike lefts similar.left io
      rw [gone_eq similar.right, similar.toLeft] at io
      exact ⟨_, .left io, agree, similar.right, rfl, congrArg (· ++ _) similar.toRight⟩
  | right io =>
      obtain ⟨side, io, agree⟩ := io_alike rights similar.right io
      rw [gone_eq similar.left, similar.toRight] at io
      exact ⟨_, .right io, similar.left, agree, congrArg (· ++ _) similar.toLeft, rfl⟩

/-- Whatever one pair does, the other can do. -/
theorem Similar.run {net next : Net E A} {other : Net E B} (similar : Similar R S net other)
    (run : Relation.ReflTransGen (Moves left right) net next) :
    ∃ next', Relation.ReflTransGen (Moves left' right') other next' ∧ Similar R S next next' := by
  induction run with
  | refl => exact ⟨other, .refl, similar⟩
  | tail _ moves ih =>
      obtain ⟨middle, run, similar⟩ := ih
      obtain ⟨next', moves', similar'⟩ := similar.step lefts rights moves
      exact ⟨next', run.tail moves', similar'⟩

end

end Lib.Agreeing
