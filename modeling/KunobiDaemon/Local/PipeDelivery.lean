import KunobiDaemon.Lib.Systems
import KunobiDaemon.Local.PipeReader

/-! A readiness pipe loses nothing the daemon sent, over any calls of its reader.

The calls return pieces of what the daemon wrote and, once it is gone and all is returned, nothing.
A call that is under way when the daemon is gone needs nobody but the launcher, which delivers
the handle, and the kernel, which sets the event of a completed operation.
-/

set_option autoImplicit false

namespace KunobiDaemon.Local.Ready

open Lib.Dialogues Lib.Interference Lib.Systems

/-- What the calls with room in their buffers returned. -/
def System.results (s : System) : List (Except Code (List UInt8)) :=
  (s.returned.filter fun call => call.size ≠ 0).map Call.result

def System.received (s : System) : List UInt8 := s.results.flatMap bytesOf

/-- The steps of the reader, with what it can need of the launcher and the kernel. -/
def Label.own : Label → Bool
  | .run => true
  | .act other => other.free
  | .call _ => false

/-- So many pieces, and then only ends. -/
def Told (results : List (Except Code (List UInt8))) (pieces : List (List UInt8)) (zeros : Nat) : Prop :=
  results = pieces.map .ok ++ List.replicate zeros (.ok []) ∧ ∀ piece ∈ pieces, piece ≠ []

/-- What a pipe promises its reader. -/
structure Lossless (s : System) : Prop where
  exact : ∃ pieces zeros, Told s.results pieces zeros ∧ pieces.flatten <+: s.world.written ∧
    (0 < zeros → s.world.Gone ∧ pieces.flatten = s.world.written) ∧
    (s.world.written.length < s.results.length → 0 < zeros)
  /-- Without the daemon a call always has a next step, and it returns. -/
  prompt : s.world.Gone →
    (∀ size step, s.place = .reading size step → ∃ label : Label, label.own = true ∧ (s.step label).isSome) ∧
    ∀ labels t, (∀ label ∈ labels, label.own = true) → replay System.step labels s = some t → labels.length ≤ 72

def Reported (results : List (Except Code (List UInt8))) (ended : Bool) : Prop :=
  ∃ pieces zeros, Told results pieces zeros ∧ (ended = false → zeros = 0)

/-- What is late to happen without the daemon. -/
def World.lag (world : World) : Nat := (if world.signalled then 0 else 1) + (if world.delivered then 0 else 1)

/-- How many of its own steps a call has left at most when the daemon is gone. A step that was
not begun then can end with nothing once more. -/
def left (before : Reader) (fresh : Bool) (count : Nat) (world : World) : Nat :=
  2 * count + 14 * (before.turns + if fresh then 0 else 1) + world.lag

inductive Sound (s : System) (bound : Nat) : Prop where
  | idle {reader : Reader} : s.place = .idle reader → Reported s.results reader.ended →
      Resting reader false s.received s.world →
      (reader.ended = true → s.world.Gone ∧ s.received = s.world.written) → s.world.lag ≤ bound → Sound s bound
  | reading {size count : Nat} {question : Question} {next : question.Reply → Asking (Reader × Except Code Next)}
      {before : Reader} {fresh : Bool} : s.place = .reading size (.ask question next) → 0 < size → Reported s.results false →
      s.received <+: s.world.written → before.ended = false → count ≤ 7 →
      Safe setting (Stepped before fresh s.received) count (.ask question next) s.world →
      left before fresh count s.world ≤ bound → Sound s bound

section
variable {results : List (Except Code (List UInt8))} {pieces : List (List UInt8)} {zeros : Nat} {ended : Bool}

theorem Told.received (told : Told results pieces zeros) : results.flatMap bytesOf = pieces.flatten := by
  rw [told.1, List.flatMap_append, List.flatMap_map, List.flatMap_replicate]
  simp [bytesOf]

theorem Reported.more {bytes : List UInt8} (reported : Reported results false) (some : bytes ≠ []) :
    Reported (results ++ [.ok bytes]) false := by
  obtain ⟨pieces, zeros, ⟨rfl, all⟩, none⟩ := reported
  refine ⟨pieces ++ [bytes], 0, ⟨by simp [none rfl], ?_⟩, fun _ => rfl⟩
  intro piece member
  rcases List.mem_append.mp member with earlier | last
  · exact all piece earlier
  · cases List.mem_singleton.mp last
    exact some

theorem Reported.close (reported : Reported results ended) : Reported (results ++ [.ok []]) true := by
  obtain ⟨pieces, zeros, ⟨rfl, all⟩, -⟩ := reported
  exact ⟨pieces, zeros + 1, ⟨by rw [List.append_assoc, ← List.replicate_succ'], all⟩, by simp⟩

end

section
variable {s t : System} {bound size : Nat} {reader before : Reader} {fresh : Bool}

theorem step_asks (reader : Reader) (size : Nat) : ∃ question next, reader.step size = .ask question next := by
  obtain ⟨process, connected, exited, ended⟩ := reader
  cases process <;> cases connected <;> cases exited <;> exact ⟨_, _, rfl⟩

/-- A step of the loop begins. -/
theorem begin_sound (room : 0 < size) (reported : Reported s.results false) (resting : Resting reader fresh s.received s.world)
    (opened : reader.ended = false) :
    Sound { s with place := .reading size (reader.step size) } (left reader fresh 7 s.world) := by
  have safe := step_safe resting room
  obtain ⟨question, next, asks⟩ := step_asks reader size
  rw [asks] at safe ⊢
  exact .reading rfl room reported resting.held.ahead opened (Nat.le_refl 7) safe (Nat.le_refl _)

theorem results_enter (reader : Reader) (result : Except Code (List UInt8)) :
    (s.enter size (.returned reader result)).results = s.results ++ if size = 0 then [] else [result] := by
  by_cases empty : size = 0 <;> simp [System.results, System.enter, empty]

theorem turns_le (reader : Reader) : reader.turns ≤ 3 := by
  unfold Reader.turns
  split <;> split <;> decide

theorem lag_le (world : World) : world.lag ≤ 2 := by
  unfold World.lag
  split <;> split <;> decide

/-- A call returns. -/
theorem return_sound {result : Except Code (List UInt8)} (room : 0 < size)
    (reported : Reported (s.results ++ [result]) reader.ended) (held : Held (s.received ++ bytesOf result) s.world)
    (idle : s.world.operation = none) (knows : Knows reader s.world)
    (all : reader.ended = true → s.world.Gone ∧ s.received ++ bytesOf result = s.world.written) :
    Sound (s.enter size (.returned reader result)) s.world.lag := by
  have results : (s.enter size (.returned reader result)).results = s.results ++ [result] := by
    rw [results_enter, if_neg (Nat.ne_of_gt room)]
  have received : (s.enter size (.returned reader result)).received = s.received ++ bytesOf result := by
    rw [System.received, results, List.flatMap_append, List.flatMap_singleton, System.received]
  refine .idle rfl ?_ ?_ ?_ (Nat.le_refl _)
  · rwa [results]
  · rw [received]
    exact ⟨held, idle, knows, by simp⟩
  · rwa [received]

/-- A call returns at the end. -/
theorem end_sound {ended : Bool} (room : 0 < size) (reported : Reported s.results ended) (finished : reader.ended = true)
    (held : Held s.received s.world) (idle : s.world.operation = none) (knows : Knows reader s.world)
    (all : s.world.Gone ∧ s.received = s.world.written) :
    Sound (s.enter size (.returned reader (.ok []))) s.world.lag := by
  refine return_sound room ?_ ?_ idle knows fun _ => ?_
  · rw [finished]
    exact reported.close
  · rwa [bytesOf, List.append_nil]
  · rwa [bytesOf, List.append_nil]

/-- A step of the loop has come to its end. -/
theorem finish_sound {found : Reader × Except Code Next} (room : 0 < size) (reported : Reported s.results false)
    (opened : before.ended = false) (stepped : Stepped before fresh s.received found s.world) :
    ∃ most, Sound (s.enter size (resume size (.done found))) most ∧
      (s.world.Gone → most ≤ 14 * (before.turns + if fresh then 0 else 1) + s.world.lag) := by
  obtain ⟨reader, _ | next⟩ := found
  · exact stepped.elim
  obtain ⟨ended, idle, knows, came⟩ := stepped
  rw [opened] at ended
  cases next with
  | got bytes =>
      obtain ⟨some, held⟩ := came
      refine ⟨_, return_sound room ?_ held idle knows ?_, fun _ => Nat.le_add_left _ _⟩
      · rw [ended]
        exact reported.more some
      · simp [ended]
  | ended =>
      obtain ⟨held, gone, all⟩ := came
      have learned : Knows { reader with ended := true } s.world := ⟨knows.process, knows.connected, knows.exited⟩
      exact ⟨_, end_sound room reported rfl held idle learned ⟨gone, all⟩, fun _ => Nat.le_add_left _ _⟩
  | again =>
      obtain ⟨held, less, fewer⟩ := came
      have reads : resume size (.done (reader, .ok .again)) = .stepping (reader.step size) := by
        simp [resume, Reader.read, ended, Nat.ne_of_gt room]
      rw [reads]
      by_cases gone : s.world.Gone
      · -- The next step is begun when the daemon is gone.
        have resting : Resting reader true s.received s.world := ⟨held, idle, knows, fun _ => gone⟩
        refine ⟨_, begin_sound room reported resting ended, fun _ => ?_⟩
        cases fresh with
        | true =>
            have := fewer rfl
            simp only [left, ↓reduceIte]
            omega
        | false =>
            simp only [left, ↓reduceIte, Bool.false_eq_true]
            omega
      · have resting : Resting reader false s.received s.world := ⟨held, idle, knows, by simp⟩
        exact ⟨_, begin_sound room reported resting ended, fun now => absurd now gone⟩

theorem sound_call (sound : Sound s bound) (stepped : s.step (.call size) = some t) : ∃ most, Sound t most := by
  cases sound with
  | reading place => simp [System.step, place] at stepped
  | @idle reader place reported resting all =>
      simp only [System.step, place, Option.some.injEq] at stepped
      subst stepped
      unfold Reader.read
      split
      · rename_i reads
        simp only [Bool.and_eq_true, Bool.not_eq_true', decide_eq_true_eq] at reads
        rw [reads.1] at reported
        exact ⟨_, begin_sound (Nat.pos_of_ne_zero reads.2) reported resting reads.1⟩
      · rename_i returns
        by_cases empty : size = 0
        · subst empty
          have same : (s.enter 0 (.returned reader (.ok []))).results = s.results := by
            rw [results_enter, if_pos rfl, List.append_nil]
          have received : (s.enter 0 (.returned reader (.ok []))).received = s.received := by
            rw [System.received, same, System.received]
          refine ⟨_, .idle rfl ?_ ?_ ?_ (Nat.le_refl _)⟩
          · rwa [same]
          · rwa [received]
          · rwa [received]
        · have finished : reader.ended = true := by simpa [empty] using returns
          exact ⟨_, end_sound (Nat.pos_of_ne_zero empty) reported finished resting.held resting.idle resting.knows (all finished)⟩

theorem lag_answer {world after : World} {question : Question} {reply : question.Reply}
    (answered : world.answer question = some (reply, after)) : after.lag ≤ world.lag + 1 := by
  obtain ⟨-, -, -, delivered⟩ := answer_keeps answered
  have most : (if after.signalled then 0 else 1) ≤ 1 := by split <;> decide
  simp only [World.lag, delivered]
  omega

theorem sound_run (sound : Sound s bound) (stepped : s.step .run = some t) :
    ∃ most, Sound t most ∧ (s.world.Gone → most < bound) := by
  cases sound with
  | idle place => simp [System.step, place] at stepped
  | @reading size count question next before fresh place room reported ahead opened few safe enough =>
      simp only [System.step, place, Option.map_eq_some_iff, Prod.exists] at stepped
      obtain ⟨reply, world, answered, rfl⟩ := stepped
      obtain ⟨fewer, rfl, goes⟩ := safe.of_ask.2 reply world answered
      obtain ⟨process, client, written, -⟩ := answer_keeps answered
      have lag := lag_answer answered
      simp only [left] at enough
      generalize next reply = program at goes
      cases program with
      | done found =>
          cases goes with
          | done came =>
              obtain ⟨most, sound, bounded⟩ := finish_sound (s := { s with world }) room reported opened came
              refine ⟨most, sound, fun gone => ?_⟩
              have gone : world.Gone := by rwa [World.Gone, process, client]
              have bounded := bounded gone
              dsimp only at bounded
              omega
      | ask question next =>
          refine ⟨_, .reading rfl room reported ?_ opened (by omega) goes (Nat.le_refl _), fun _ => ?_⟩
          · rw [← written] at ahead
            exact ahead
          · change 2 * fewer + 14 * (before.turns + if fresh then 0 else 1) + world.lag < bound
            omega

theorem lag_free {world after : World} {act : Act} (free : act.free = true) (acted : world.act act = some after) :
    after.lag < world.lag := by
  cases act with
  | deliver =>
      obtain ⟨⟨-, late⟩, done⟩ := Option.ite_none_right_eq_some.mp acted
      cases done
      simp [World.lag, late]
  | signal =>
      simp only [World.act] at acted
      split at acted
      · obtain ⟨late, done⟩ := Option.ite_none_left_eq_some.mp acted
        cases done
        simp [World.lag, late]
      · cases acted
  | spawn | connect | write | close | exit => cases free

theorem sound_act {act : Act} (sound : Sound s bound) (stepped : s.step (.act act) = some t) :
    ∃ most, Sound t most ∧ (act.free = true → most < bound) := by
  simp only [System.step, Option.map_eq_some_iff] at stepped
  obtain ⟨world, acted, rfl⟩ := stepped
  have effect := effect_of_act acted
  cases sound with
  | idle place reported resting all enough =>
      refine ⟨_, .idle place reported (effect.resting resting) (fun finished => ?_) (Nat.le_refl _), fun free => ?_⟩
      · obtain ⟨gone, received⟩ := all finished
        exact ⟨effect.gone gone, received.trans (effect.written gone).symm⟩
      · exact Nat.lt_of_lt_of_le (lag_free free acted) enough
  | reading place room reported ahead opened few safe enough =>
      have safe := safe.others (fun _ => stable_of_effect fun _ _ stepped effect => effect.stepped stepped) ⟨act, acted⟩
      refine ⟨_, .reading place room reported (ahead.trans effect.grows) opened few safe (Nat.le_refl _), fun free => ?_⟩
      have lag := lag_free free acted
      simp only [left] at enough ⊢
      omega

theorem Sound.bounded (sound : Sound s bound) : Sound s 72 := by
  cases sound with
  | idle place reported resting all =>
      exact .idle place reported resting all (Nat.le_trans (lag_le s.world) (by decide))
  | @reading size count question next before fresh place room reported ahead opened few safe =>
      refine .reading place room reported ahead opened few safe ?_
      have turns := turns_le before
      have lag := lag_le s.world
      have once : (if fresh = true then 0 else 1) ≤ 1 := by split <;> decide
      simp only [left]
      omega

/-- Every step keeps the promise, and one of the reader's own uses up some of what is left to it. -/
theorem sound_step {label : Label} (sound : Sound s bound) (stepped : s.step label = some t) :
    ∃ most, Sound t most ∧ (s.world.Gone → label.own = true → most < bound) := by
  cases label with
  | call size =>
      obtain ⟨most, sound⟩ := sound_call sound stepped
      exact ⟨most, sound, fun _ own => by cases own⟩
  | run =>
      obtain ⟨most, sound, less⟩ := sound_run sound stepped
      exact ⟨most, sound, fun gone _ => less gone⟩
  | act act =>
      obtain ⟨most, sound, less⟩ := sound_act sound stepped
      exact ⟨most, sound, fun _ => less⟩

theorem gone_step {label : Label} (gone : s.world.Gone) (stepped : s.step label = some t) : t.world.Gone := by
  have enters : ∀ (s : System) size activity, (s.enter size activity).world = s.world := by
    intro s size activity
    cases activity <;> rfl
  cases label with
  | call size =>
      simp only [System.step] at stepped
      split at stepped
      · cases stepped
        rwa [enters]
      · cases stepped
  | run =>
      simp only [System.step] at stepped
      split at stepped
      · obtain ⟨⟨reply, world⟩, answered, rfl⟩ := Option.map_eq_some_iff.mp stepped
        obtain ⟨process, client, -⟩ := answer_keeps answered
        rw [enters]
        rwa [World.Gone, process, client]
      · cases stepped
  | act act =>
      obtain ⟨world, acted, rfl⟩ := Option.map_eq_some_iff.mp stepped
      exact (effect_of_act acted).gone gone

theorem length_le_flatten {pieces : List (List UInt8)} (some : ∀ piece ∈ pieces, piece ≠ []) :
    pieces.length ≤ pieces.flatten.length := by
  induction pieces with
  | nil => exact Nat.le_refl 0
  | cons piece rest ih =>
      have first := List.length_pos_iff.mpr (some piece List.mem_cons_self)
      have later := ih fun piece member => some piece (List.mem_cons_of_mem _ member)
      rw [List.length_cons, List.flatten_cons, List.length_append]
      omega

theorem Reported.exact {ended : Bool} (reported : Reported s.results ended) (ahead : s.received <+: s.world.written)
    (all : ended = true → s.world.Gone ∧ s.received = s.world.written) :
    ∃ pieces zeros, Told s.results pieces zeros ∧ pieces.flatten <+: s.world.written ∧
      (0 < zeros → s.world.Gone ∧ pieces.flatten = s.world.written) ∧
      (s.world.written.length < s.results.length → 0 < zeros) := by
  obtain ⟨pieces, zeros, told, none⟩ := reported
  have received : s.received = pieces.flatten := told.received
  rw [received] at ahead all
  refine ⟨pieces, zeros, told, ahead, fun some => ?_, fun many => ?_⟩
  · cases ended with
    | true => exact all rfl
    | false => exact absurd (none rfl) (Nat.ne_of_gt some)
  · -- As many pieces as there are bytes at most.
    rw [told.1, List.length_append, List.length_map, List.length_replicate] at many
    have pieces := length_le_flatten told.2
    have bytes := ahead.length_le
    omega

theorem Sound.exact (sound : Sound s bound) :
    ∃ pieces zeros, Told s.results pieces zeros ∧ pieces.flatten <+: s.world.written ∧
      (0 < zeros → s.world.Gone ∧ pieces.flatten = s.world.written) ∧
      (s.world.written.length < s.results.length → 0 < zeros) := by
  cases sound with
  | idle _ reported resting all => exact reported.exact resting.held.ahead all
  | reading _ _ reported ahead => exact reported.exact ahead (by simp)

theorem Sound.enabled {step : Asking (Reader × Except Code Next)} (sound : Sound s bound) (gone : s.world.Gone)
    (busy : s.place = .reading size step) : ∃ label : Label, label.own = true ∧ (s.step label).isSome := by
  cases sound with
  | idle place => cases busy.symm.trans place
  | reading place _ _ _ _ _ safe =>
      rcases safe.of_ask.1 gone with answered | ⟨act, free, acts⟩
      · exact ⟨.run, rfl, by simpa [System.step, place] using answered⟩
      · exact ⟨.act act, free, by simpa [System.step] using acts⟩

theorem Sound.lossless (sound : Sound s bound) : Lossless s where
  exact := sound.exact
  prompt gone := by
    refine ⟨fun size step busy => sound.enabled gone busy, fun labels t own replayed => ?_⟩
    have uses : ∀ left (s : System) label t, Sound s left ∧ s.world.Gone → Label.own label = true →
        s.step label = some t → ∃ less, less < left ∧ Sound t less ∧ t.world.Gone := by
      rintro left s label t ⟨sound, gone⟩ own stepped
      obtain ⟨less, sound, fewer⟩ := sound_step sound stepped
      exact ⟨less, fewer gone own, sound, gone_step gone stepped⟩
    obtain ⟨less, -, few⟩ := length_replay_within (K := fun label => Label.own label = true) uses own
      ⟨sound.bounded, gone⟩ replayed
    omega

theorem sound_initial : Sound {} 2 := by
  have held : Held [] {} :=
    ⟨rfl, fun _ => rfl, fun _ => rfl, (by simp), (by simp), (by simp), (by simp)⟩
  have knows : Knows {} {} := ⟨by simp, by simp, by simp⟩
  exact .idle rfl ⟨[], 0, ⟨rfl, by simp⟩, fun _ => rfl⟩ ⟨held, rfl, knows, by simp⟩ (by simp) (by decide)

end

theorem ready_pipe_loses_nothing (labels : List Label) : Throughout System.step Lossless labels {} := by
  refine throughout_of_kept (J := fun s => ∃ bound, Sound s bound) ?_ ?_ labels ⟨2, sound_initial⟩
  · rintro s ⟨bound, sound⟩
    exact sound.lossless
  · rintro s label t ⟨bound, sound⟩ stepped
    obtain ⟨most, sound, -⟩ := sound_step sound stepped
    exact ⟨most, sound⟩

end KunobiDaemon.Local.Ready
