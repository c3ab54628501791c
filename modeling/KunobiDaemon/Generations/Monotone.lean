import KunobiDaemon.Generations.Allocation

/-! Allocated generations never repeat and never fall behind what is visible.

A value is above everything its call has seen (`Informed`), the counter included. While the file
is changed by calls alone, it stays at or above every value that was returned (`Steady`), whatever
failed and whichever call crashed.
-/

set_option autoImplicit false

namespace KunobiDaemon.Generations

open Lib
open Lib.Systems

/-- Nothing has gone wrong in a call so far. -/
structure Allocating.Clean (call : Allocating) : Prop where
  readable : call.unreadable = none
  numbered : counterNumber call.before ≠ none
  listed : call.unlisted = none
  entries : ∀ error, .error error ∉ call.entries

/-- A call that cannot succeed: its counter cannot be read or is corrupt, its directory cannot be read, or the
largest number is taken. -/
def Allocating.Doomed (call : Allocating) : Prop :=
  call.unreadable ≠ none ∨ counterNumber call.before = none ∨ call.unlisted ≠ none ∨
  (∃ error, .error error ∈ call.entries) ∨ Words.top ∈ call.seen

/-- A call that has met nothing yet. -/
structure Allocating.Fresh (call : Allocating) : Prop where
  readable : call.unreadable = none
  listed : call.unlisted = none
  entries : call.entries = []

section
variable {call : Allocating}

theorem Allocating.Clean.not_doomed {value : UInt64} (clean : call.Clean) (above : ∀ number ∈ call.seen, number < value) :
    ¬ call.Doomed := by
  rintro (unreadable | corrupt | unlisted | ⟨error, torn⟩ | top)
  · exact unreadable clean.readable
  · exact clean.numbered corrupt
  · exact unlisted clean.listed
  · exact clean.entries error torn
  · exact Words.not_top_lt (above _ top)

theorem counterNumber_mem_seen {number : UInt64} (found : counterNumber call.before = some number) :
    number ∈ call.seen := by
  simp [Allocating.seen, found]

theorem selected_mem_seen : call.selected ∈ call.seen := by
  simp [Allocating.seen]

theorem stem_mem_seen {name : List UInt8} {number : UInt64} (listed : .ok name ∈ call.entries)
    (found : stemNumber name = some number) : number ∈ call.seen := by
  simp only [Allocating.seen, List.mem_append, List.mem_cons, List.mem_filterMap]
  exact .inr (.inr ⟨_, listed, found⟩)

theorem seen_entry (name : List UInt8) :
    Allocating.seen { call with entries := call.entries ++ [.ok name] } = call.seen ++ (stemNumber name).toList := by
  cases found : stemNumber name <;> simp [Allocating.seen, entryNumber, found]

theorem counterNumber_print (number : UInt64) : counterNumber (some (.text (Decimals.print number))) = some number := by
  rw [counterNumber, Decimals.trim_print, Decimals.parse_print]

end

namespace Allocation

/-- All that one step can do, but for the loss of the file. -/
inductive Effect (s : System) : System → Prop where
  | begun {selected : UInt64} : s.place = .idle →
      Effect s { s with place := .reading { selected, before := s.counter } }
  | unreadable {call : Allocating} {error : IoError} : s.place = .reading call →
      Effect s
        { s with
          place := .returning { call with before := s.counter, unreadable := some error } (.error (.counter error)) }
  | corrupt {call : Allocating} : s.place = .reading call →
      Effect s { s with place := .returning { call with before := s.counter } (.error .corrupt) }
  | counted {call : Allocating} {prior : UInt64} : s.place = .reading call → counterNumber s.counter = some prior →
      Effect s { s with place := .opening { call with before := s.counter } (max prior call.selected) }
  | unlisted {call : Allocating} {maximum : UInt64} {error : IoError} : s.place = .opening call maximum →
      Effect s { s with place := .returning { call with unlisted := some error } (.error (.directory error)) }
  | opened {call : Allocating} {maximum : UInt64} : s.place = .opening call maximum →
      Effect s { s with place := .listing call maximum }
  | torn {call : Allocating} {maximum : UInt64} {error : IoError} : s.place = .listing call maximum →
      Effect s
        { s with
          place := .returning { call with entries := call.entries ++ [.error error] } (.error (.directory error)) }
  | entry {call : Allocating} {maximum larger : UInt64} {name : List UInt8} : s.place = .listing call maximum →
      maximum ≤ larger → (∀ number, stemNumber name = some number → number ≤ larger) →
      Effect s { s with place := .listing { call with entries := call.entries ++ [.ok name] } larger }
  | exhausted {call : Allocating} {maximum : UInt64} : s.place = .listing call maximum →
      Effect s { s with place := .returning call (.error .exhausted) }
  | summed {call : Allocating} {maximum next : UInt64} : s.place = .listing call maximum →
      Words.checkedAdd maximum 1 = some next → Effect s { s with place := .publishing call next }
  | published {call : Allocating} {next : UInt64} : s.place = .publishing call next →
      Effect s { s with counter := some (.text (Decimals.print next)), place := .returning call (.ok next) }
  | unpublished {call : Allocating} {next : UInt64} {error : IoError} {counter : Option Contents} :
      s.place = .publishing call next → counter = s.counter ∨ counter = some (.text (Decimals.print next)) →
      Effect s { s with counter, place := .returning call (.error (.publication error)) }
  | left {call : Allocating} {result : Except Failure UInt64} : s.place = .returning call result →
      Effect s (s.finish call (some result))
  | crashed {call : Allocating} : s.place.call = some call → Effect s (s.finish call none)

variable {s t : System}

theorem step_effect {label : Label} (stepped : s.step label = some t) :
    (label = .lose ∧ t = { s with counter := none }) ∨ Effect s t := by
  cases label with
  | allocate selected =>
      simp only [System.step] at stepped
      split at stepped
      · cases stepped
        exact .inr (.begun ‹_›)
      · cases stepped
  | readCounter fails =>
      simp only [System.step] at stepped
      split at stepped
      · rename_i call reading
        cases fails with
        | some error =>
            simp only [Option.ite_none_left_eq_some, Option.some.injEq] at stepped
            obtain ⟨-, rfl⟩ := stepped
            exact .inr (.unreadable reading)
        | none =>
            dsimp only at stepped
            split at stepped
            · cases stepped
              exact .inr (.corrupt reading)
            · cases stepped
              exact .inr (.counted reading ‹_›)
      · cases stepped
  | openDirectory fails =>
      simp only [System.step] at stepped
      split at stepped
      · rename_i call maximum opening
        cases fails with
        | some error =>
            cases stepped
            exact .inr (.unlisted opening)
        | none =>
            cases stepped
            exact .inr (.opened opening)
      · cases stepped
  | entry found =>
      simp only [System.step] at stepped
      split at stepped
      · rename_i call maximum listing
        cases found with
        | error error =>
            cases stepped
            exact .inr (.torn listing)
        | ok name =>
            dsimp only at stepped
            split at stepped
            · rename_i value numeric
              cases stepped
              refine .inr (.entry listing (Words.le_max_iff.mpr (.inl (UInt64.le_refl _))) fun number found => ?_)
              cases numeric.symm.trans found
              exact Words.le_max_iff.mpr (.inr (UInt64.le_refl _))
            · rename_i other
              cases stepped
              refine .inr (.entry listing (UInt64.le_refl _) fun number found => ?_)
              cases other.symm.trans found
      · cases stepped
  | listed =>
      simp only [System.step] at stepped
      split at stepped
      · rename_i call maximum listing
        split at stepped
        · cases stepped
          exact .inr (.exhausted listing)
        · cases stepped
          exact .inr (.summed listing ‹_›)
      · cases stepped
  | publish =>
      simp only [System.step] at stepped
      split at stepped
      · cases stepped
        exact .inr (.published ‹_›)
      · cases stepped
  | failPublication error replaced =>
      simp only [System.step] at stepped
      split at stepped
      · rename_i call next publishing
        cases stepped
        refine .inr (.unpublished publishing ?_)
        cases replaced with
        | true => exact .inr rfl
        | false => exact .inl rfl
      · cases stepped
  | leave =>
      simp only [System.step] at stepped
      split at stepped
      · cases stepped
        exact .inr (.left ‹_›)
      · cases stepped
  | crash =>
      obtain ⟨call, there, rfl⟩ := Option.map_eq_some_iff.mp stepped
      exact .inr (.crashed there)
  | lose =>
      cases stepped
      exact .inl ⟨rfl, rfl⟩

/-- What the call at a place has seen, and made of it. -/
def Place.Informed : Place → Prop
  | .idle => True
  | .reading call => call.Fresh
  | .opening call maximum | .listing call maximum => call.Clean ∧ ∀ number ∈ call.seen, number ≤ maximum
  | .publishing call value | .returning call (.ok value) => call.Clean ∧ ∀ number ∈ call.seen, number < value
  | .returning _ (.error _) => True

/-- A value that was returned is above all that its call had seen. -/
structure Informed (s : System) : Prop where
  place : s.place.Informed
  history : ∀ finished ∈ s.history, ∀ value, finished.result = some (.ok value) →
    finished.call.Clean ∧ ∀ number ∈ finished.call.seen, number < value

theorem Informed.moves (informed : Informed s) {place : Place} {counter : Option Contents} (next : place.Informed) :
    Informed { s with counter, place } :=
  ⟨next, informed.history⟩

theorem Informed.finish (informed : Informed s) {call : Allocating} {result : Option (Except Failure UInt64)}
    (above : ∀ value, result = some (.ok value) → call.Clean ∧ ∀ number ∈ call.seen, number < value) :
    Informed (s.finish call result) := by
  refine ⟨trivial, fun finished member => ?_⟩
  rcases List.mem_append.mp member with earlier | last
  · exact informed.history finished earlier
  · rw [List.mem_singleton.mp last]
    exact above

theorem Informed.effect (informed : Informed s) (effect : Effect s t) : Informed t := by
  have place := informed.place
  cases effect with
  | begun => exact informed.moves ⟨rfl, rfl, rfl⟩
  | unreadable | corrupt | unlisted | torn | exhausted => exact informed.moves trivial
  | @counted call prior reading number =>
      rw [reading] at place
      have seen : Allocating.seen { call with before := s.counter } = [prior, call.selected] := by
        simp [Allocating.seen, number, place.entries]
      refine informed.moves ⟨⟨place.readable, ?_, place.listed, ?_⟩, ?_⟩
      · rw [number]
        nofun
      · rw [place.entries]
        exact fun error torn => absurd torn List.not_mem_nil
      · intro found member
        rw [seen] at member
        simp only [List.mem_cons, List.not_mem_nil, or_false] at member
        rcases member with rfl | rfl
        · exact Words.le_max_iff.mpr (.inl (UInt64.le_refl _))
        · exact Words.le_max_iff.mpr (.inr (UInt64.le_refl _))
  | opened opening =>
      rw [opening] at place
      exact informed.moves place
  | @entry call maximum larger name listing larger_ numeric =>
      rw [listing] at place
      obtain ⟨clean, below⟩ := place
      refine informed.moves ⟨⟨clean.readable, clean.numbered, clean.listed, fun error torn => ?_⟩, fun found member => ?_⟩
      · simp only [List.mem_append, List.mem_singleton, reduceCtorEq, or_false] at torn
        exact clean.entries error torn
      · rw [seen_entry] at member
        rcases List.mem_append.mp member with earlier | last
        · exact UInt64.le_trans (below found earlier) larger_
        · exact numeric found (Option.mem_toList.mp last)
  | summed listing added =>
      rw [listing] at place
      exact informed.moves ⟨place.1, fun found member => Words.lt_of_checkedAdd_one added (place.2 found member)⟩
  | published publishing =>
      rw [publishing] at place
      exact informed.moves place
  | unpublished => exact informed.moves trivial
  | @left call result returning =>
      rw [returning] at place
      refine informed.finish fun value ok => ?_
      cases ok
      exact place
  | crashed =>
      refine informed.finish fun value ok => ?_
      cases ok

/-- The calls change the file alone. -/
def Kept (_ : System) (label : Label) : Prop := label ≠ .lose

/-- How the file compares with what the call at a place has seen. -/
def Place.Steady (counter : Option Contents) (allocated : List UInt64) : Place → Prop
  | .idle => True
  | .reading call | .opening call _ | .listing call _ | .publishing call _ => counter = call.before
  | .returning _ (.ok value) => counter = some (.text (Decimals.print value)) ∧ ∀ earlier ∈ allocated, earlier < value
  | .returning call (.error _) =>
      counter = call.before ∨ call.Clean ∧ ∃ value, ∀ number ∈ call.seen, number < value

/-- A call that is over left the file as it was, or with the value it had found. -/
structure Finished.Sound (finished : Finished) : Prop where
  success : ∀ value, finished.result = some (.ok value) → counterNumber finished.after = some value
  doomed : finished.call.Doomed → finished.success = none ∧ finished.after = finished.call.before

structure Steady (s : System) : Prop where
  informed : Informed s
  place : s.place.Steady s.counter s.allocated
  reached : ∀ value ∈ s.allocated, ∃ number, counterNumber s.counter = some number ∧ value ≤ number
  increasing : s.allocated.Pairwise (· < ·)
  history : ∀ finished ∈ s.history, finished.Sound

theorem Steady.moves (steady : Steady s) {place : Place} (informed : place.Informed)
    (same : place.Steady s.counter s.allocated) : Steady { s with place } :=
  ⟨steady.informed.moves informed, same, steady.reached, steady.increasing, steady.history⟩

/-- Every value that was returned is below the one that is about to be published. -/
theorem Steady.allocated_lt (steady : Steady s) {call : Allocating} {next : UInt64}
    (publishing : s.place = .publishing call next) : ∀ value ∈ s.allocated, value < next := by
  intro value member
  obtain ⟨number, found, le⟩ := steady.reached value member
  have informed := steady.informed.place
  have same := steady.place
  rw [publishing] at informed same
  have below := informed.2 number (counterNumber_mem_seen (same ▸ found))
  exact UInt64.lt_of_le_of_lt le below

theorem Steady.replaces (steady : Steady s) {call : Allocating} {next : UInt64} {place : Place}
    (publishing : s.place = .publishing call next) (informed : place.Informed)
    (written : place.Steady (some (.text (Decimals.print next))) s.allocated) :
    Steady { s with counter := some (.text (Decimals.print next)), place } := by
  refine ⟨steady.informed.moves informed, written, fun value member => ?_, steady.increasing, steady.history⟩
  exact ⟨next, counterNumber_print next, UInt64.le_of_lt (steady.allocated_lt publishing value member)⟩

theorem allocated_finish (s : System) (call : Allocating) (result : Option (Except Failure UInt64)) :
    (s.finish call result).allocated = s.allocated ++ (Finished.success ⟨call, result, s.counter⟩).toList := by
  unfold System.allocated System.finish
  rw [List.filterMap_append]
  cases found : Finished.success ⟨call, result, s.counter⟩ <;> simp [found]

/-- A call that returns no value. -/
theorem Steady.fails (steady : Steady s) {call : Allocating} {result : Option (Except Failure UInt64)}
    (none_ : Finished.success ⟨call, result, s.counter⟩ = none) (untouched : call.Doomed → s.counter = call.before) :
    Steady (s.finish call result) := by
  have failed (value : UInt64) (ok : result = some (.ok value)) : False := by
    rw [ok] at none_
    cases none_
  have same : (s.finish call result).allocated = s.allocated := by
    rw [allocated_finish, none_]
    exact List.append_nil _
  refine ⟨steady.informed.finish fun value ok => (failed value ok).elim, trivial, same ▸ steady.reached,
    same ▸ steady.increasing, fun finished member => ?_⟩
  rcases List.mem_append.mp member with earlier | last
  · exact steady.history finished earlier
  · rw [List.mem_singleton.mp last]
    exact ⟨fun value ok => (failed value ok).elim, fun doomed => ⟨none_, untouched doomed⟩⟩

/-- A doomed call has not replaced the file. -/
theorem Steady.untouched (steady : Steady s) {call : Allocating} (there : s.place.call = some call)
    (doomed : call.Doomed) : s.counter = call.before := by
  have informed := steady.informed.place
  have same := steady.place
  cases place : s.place with
  | idle =>
      rw [place] at there
      cases there
  | reading | opening | listing | publishing =>
      rw [place] at there same
      cases there
      exact same
  | returning call result =>
      rw [place] at there same informed
      cases there
      cases result with
      | ok value => exact absurd doomed (informed.1.not_doomed informed.2)
      | error failure =>
          rcases same with same | ⟨clean, value, above⟩
          · exact same
          · exact absurd doomed (clean.not_doomed above)

theorem Steady.succeeds (steady : Steady s) {call : Allocating} {value : UInt64}
    (returning : s.place = .returning call (.ok value)) : Steady (s.finish call (some (.ok value))) := by
  have informed := steady.informed.place
  have same := steady.place
  rw [returning] at informed same
  have number : counterNumber s.counter = some value := same.1 ▸ counterNumber_print value
  have grown : (s.finish call (some (.ok value))).allocated = s.allocated ++ [value] := allocated_finish s call _
  refine ⟨steady.informed.finish fun other ok => ?_, trivial, ?_, ?_, fun finished member => ?_⟩
  · cases ok
    exact informed
  · rw [grown]
    intro other member
    refine ⟨value, number, ?_⟩
    rcases List.mem_append.mp member with earlier | last
    · exact UInt64.le_of_lt (same.2 other earlier)
    · rw [List.mem_singleton.mp last]
      exact UInt64.le_refl _
  · rw [grown, List.pairwise_append]
    refine ⟨steady.increasing, List.pairwise_singleton _ _, fun other earlier last member => ?_⟩
    rw [List.mem_singleton.mp member]
    exact same.2 other earlier
  · rcases List.mem_append.mp member with earlier | last
    · exact steady.history finished earlier
    · rw [List.mem_singleton.mp last]
      refine ⟨fun other ok => ?_, fun doomed => absurd doomed (informed.1.not_doomed informed.2)⟩
      cases ok
      exact number

theorem Steady.effect (steady : Steady s) (effect : Effect s t) : Steady t := by
  have informed := (steady.informed.effect effect).place
  have same := steady.place
  cases effect with
  | begun => exact steady.moves informed rfl
  | unreadable | corrupt => exact steady.moves informed (.inl rfl)
  | counted => exact steady.moves informed rfl
  | unlisted opening =>
      rw [opening] at same
      exact steady.moves informed (.inl same)
  | opened opening =>
      rw [opening] at same
      exact steady.moves informed same
  | torn listing | exhausted listing =>
      rw [listing] at same
      exact steady.moves informed (.inl same)
  | entry listing | summed listing =>
      rw [listing] at same
      exact steady.moves informed same
  | published publishing =>
      exact steady.replaces publishing informed ⟨rfl, steady.allocated_lt publishing⟩
  | unpublished publishing outcome =>
      have before := steady.informed.place
      rw [publishing] at before same
      rcases outcome with rfl | rfl
      · exact steady.moves informed (.inl same)
      · exact steady.replaces publishing informed (.inr ⟨before.1, _, before.2⟩)
  | @left call result returning =>
      cases result with
      | ok value => exact steady.succeeds returning
      | error failure => exact steady.fails rfl (steady.untouched (by rw [returning]; rfl))
  | crashed there => exact steady.fails rfl (steady.untouched there)

theorem Informed.initial {counter : Option Contents} : Informed { counter } :=
  ⟨trivial, fun _ member => absurd member List.not_mem_nil⟩

theorem Steady.initial {counter : Option Contents} : Steady { counter } :=
  ⟨.initial, trivial, fun _ member => absurd member List.not_mem_nil, .nil,
    fun _ member => absurd member List.not_mem_nil⟩

theorem steady_of_path {counter : Option Contents} (path : Path System.step Kept { counter } s) : Steady s := by
  refine path.invariant (fun s label t steady kept stepped => ?_) .initial
  rcases step_effect stepped with ⟨lost, -⟩ | effect
  · exact absurd lost kept
  · exact steady.effect effect

theorem informed_of_path {counter : Option Contents} (path : Path System.step Any { counter } s) : Informed s := by
  refine path.invariant (fun s label t informed _ stepped => ?_) .initial
  rcases step_effect stepped with ⟨-, rfl⟩ | effect
  · exact ⟨informed.place, informed.history⟩
  · exact informed.effect effect

/-- A value is above everything that its call could see. -/
structure Finished.Above (finished : Finished) (value : UInt64) : Prop where
  counter : ∃ number, counterNumber finished.call.before = some number ∧ number < value
  selected : finished.call.selected < value
  stems : ∀ name number, .ok name ∈ finished.call.entries → stemNumber name = some number → number < value

theorem Informed.above (informed : Informed s) {finished : Finished} (member : finished ∈ s.history) {value : UInt64}
    (ok : finished.result = some (.ok value)) : finished.Above value := by
  obtain ⟨clean, above⟩ := informed.history finished member value ok
  obtain ⟨number, found⟩ := Option.ne_none_iff_exists'.mp clean.numbered
  refine ⟨⟨number, found, above number (counterNumber_mem_seen found)⟩, above _ selected_mem_seen, ?_⟩
  exact fun name stem listed numeric => above stem (stem_mem_seen listed numeric)

/-- What became of a call, as long as the file is changed by calls alone. -/
structure Finished.Accounted (finished : Finished) : Prop where
  above : ∀ value, finished.result = some (.ok value) → finished.Above value
  counted : ∀ value, finished.result = some (.ok value) → counterNumber finished.after = some value
  doomed : finished.call.Doomed →
    (∀ value, finished.result ≠ some (.ok value)) ∧ finished.after = finished.call.before

/-- The maximum with an entry taken into account. -/
def note (maximum : UInt64) (name : List UInt8) : UInt64 :=
  match stemNumber name with
  | some value => max maximum value
  | none => maximum

theorem replay_listing (names : List (List UInt8)) {call : Allocating} {maximum : UInt64}
    (listing : s.place = .listing call maximum) :
    replay System.step (names.map fun name => .entry (.ok name)) s = some
      { s with place :=
          .listing { call with entries := call.entries ++ names.map .ok } (names.foldl note maximum) } := by
  induction names generalizing s call maximum with
  | nil =>
      simp only [List.map_nil, List.append_nil, List.foldl_nil, ← listing]
      rfl
  | cons name names ih =>
      have stepped : s.step (.entry (.ok name)) = some
          { s with place := .listing { call with entries := call.entries ++ [.ok name] } (note maximum name) } := by
        unfold note
        cases numeric : stemNumber name <;> simp only [System.step, listing, numeric]
      rw [List.map_cons, replay, stepped, Option.bind_some, ih rfl]
      simp only [List.append_assoc, List.map_cons, List.foldl_cons, List.singleton_append]

theorem foldl_note_ne_top (names : List (List UInt8)) {maximum : UInt64} (below : maximum ≠ Words.top)
    (stems : ∀ name ∈ names, stemNumber name ≠ some Words.top) : names.foldl note maximum ≠ Words.top := by
  induction names generalizing maximum with
  | nil => exact below
  | cons name names ih =>
      refine ih ?_ fun other member => stems other (List.mem_cons_of_mem _ member)
      have stem := stems name List.mem_cons_self
      unfold note
      cases numeric : stemNumber name with
      | none => exact below
      | some value => exact Words.max_ne below fun top => stem (numeric.trans (congrArg some top))

/-- The steps of a call that meets no error in a directory of these entries. -/
def smoothly (selected : UInt64) (names : List (List UInt8)) : List Label :=
  [.allocate selected, .readCounter none, .openDirectory none] ++ names.map (fun name => .entry (.ok name)) ++
    [.listed, .publish, .leave]

/-- A call that meets no error returns, unless the largest number is taken. -/
theorem allocates {prior : UInt64} (idle : s.place = .idle) (counted : counterNumber s.counter = some prior)
    (selected : UInt64) (names : List (List UInt8))
    (below : Words.top ∉ Allocating.seen { selected, before := s.counter, entries := names.map .ok }) :
    ∃ t call value, replay System.step (smoothly selected names) s = some t ∧
      t.history = s.history ++ [⟨call, some (.ok value), t.counter⟩] := by
  have first : replay System.step [.allocate selected, .readCounter none, .openDirectory none] s = some
      { s with place := .listing { selected, before := s.counter } (max prior selected) } := by
    simp only [replay, System.step, idle, counted, Option.bind_some]
  have short : names.foldl note (max prior selected) ≠ Words.top := by
    refine foldl_note_ne_top names (Words.max_ne ?_ ?_) fun name member numeric => below ?_
    · rintro rfl
      exact below (counterNumber_mem_seen counted)
    · rintro rfl
      exact below selected_mem_seen
    · exact stem_mem_seen (List.mem_map_of_mem member) numeric
  have listed := Words.checkedAdd_one short
  let value := names.foldl note (max prior selected) + 1
  let call : Allocating := { selected, before := s.counter, entries := [] ++ names.map .ok }
  have replayed : replay System.step (smoothly selected names) s = some
      (System.finish { s with counter := some (.text (Decimals.print value)), place := .returning call (.ok value) }
        call (some (.ok value))) := by
    rw [smoothly, replay_append, replay_append, first, Option.bind_some, replay_listing names rfl, Option.bind_some]
    simp only [replay, System.step, listed, Option.bind_some]
    rfl
  exact ⟨_, _, _, replayed, rfl⟩

/-- Allocated generations never repeat and never fall behind, also if the file is lost. -/
theorem allocations_never_repeat (counter : Option Contents) :
    (∀ s, Path System.step Kept { counter } s →
      s.allocated.Pairwise (· < ·) ∧ ∀ finished ∈ s.history, finished.Accounted) ∧
    (∀ s, Path System.step Any { counter } s →
      ∀ finished ∈ s.history, ∀ value, finished.result = some (.ok value) → finished.Above value) ∧
    (∀ s selected names prior, s.place = .idle → counterNumber s.counter = some prior →
      Words.top ∉ Allocating.seen { selected, before := s.counter, entries := names.map .ok } →
      ∃ t call value, replay System.step (smoothly selected names) s = some t ∧
        t.history = s.history ++ [⟨call, some (.ok value), t.counter⟩]) := by
  refine ⟨fun s path => ?_, fun s path finished member value ok => (informed_of_path path).above member ok,
    fun s selected names prior idle counted below => allocates idle counted selected names below⟩
  have steady := steady_of_path path
  refine ⟨steady.increasing, fun finished member => ⟨fun value ok => steady.informed.above member ok, ?_, ?_⟩⟩
  · exact (steady.history finished member).success
  · intro doomed
    obtain ⟨none_, untouched⟩ := (steady.history finished member).doomed doomed
    refine ⟨fun value ok => ?_, untouched⟩
    rw [Finished.success, ok] at none_
    cases none_

end Allocation

end KunobiDaemon.Generations
