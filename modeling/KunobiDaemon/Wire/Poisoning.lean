import KunobiDaemon.Wire.Control

/-! A session is dead after any uncertain I/O.

`Exchange` says what a call can do to a session that is alive or dead, whatever the transport
does and wherever the call is dropped. Both kinds of session keep to it, and what whole
histories keep follows from it alone.
-/

set_option autoImplicit false

namespace KunobiDaemon.Wire

open Lib.Bytes
open Lib.Streams

section
variable {M : Type} (codec : Codec M) (limit : UInt32)

/-- What a send of one frame can do. The flags say whether the codec had failed before and after. -/
inductive Sent (message : M) : Bool → Footprint → Bool → Option (Except IoError Unit) → Prop where
  | refused {error : IoError} : Sent message true .nothing true (some (.error error))
  | rejected {error : IoError} : ¬ Fits limit (codec.encode message) →
      Sent message false .nothing false (some (.error error))
  | sent : Fits limit (codec.encode message) →
      Sent message false ⟨[], frame (codec.encode message), true⟩ false (some (.ok ()))
  | cut {part : List UInt8} {outcome : Option (Except IoError Unit)} : Fits limit (codec.encode message) →
      part <+: frame (codec.encode message) → outcome ≠ some (.ok ()) →
      Sent message false ⟨[], part, false⟩ true outcome

/-- What a receive of one frame can do. -/
inductive Got : Bool → Footprint → Bool → Option (Except IoError M) → Prop where
  | refused {error : IoError} : Got true .nothing true (some (.error error))
  | received {body : List UInt8} {message : M} : Fits limit body → codec.decode limit body = some message →
      Got false ⟨frame body, [], true⟩ false (some (.ok message))
  | lost {taken : List UInt8} {clean : Bool} {outcome : Option (Except IoError M)} :
      (∀ message, outcome ≠ some (.ok message)) → Got false ⟨taken, [], clean⟩ true outcome

variable {codec limit}

theorem encodeFrame_cases (codec : Codec M) (message : M) (limit : UInt32) :
    (∃ error, encodeFrame codec message limit = .error error ∧ ¬ Fits limit (codec.encode message)) ∨
    (encodeFrame codec message limit = .ok (frame (codec.encode message)) ∧ Fits limit (codec.encode message)) := by
  by_cases fits : Fits limit (codec.encode message)
  · exact .inr ⟨encodeFrame_eq codec fits, fits⟩
  · refine .inl ?_
    unfold encodeFrame
    dsimp only
    split_ifs with long empty
    · exact ⟨_, rfl, fits⟩
    · exact ⟨_, rfl, fits⟩
    · exact absurd ⟨fun none_ => empty (by rw [none_, List.length_nil]), Nat.le_of_not_lt long⟩ fits

theorem performs_sending {message : M} {frames left : Framed} {footprint : Footprint}
    {outcome : Option (Except IoError Unit)}
    (performs : Performs (frames.sending codec message) footprint left outcome) :
    left.limit = frames.limit ∧ Sent codec frames.limit message frames.failed footprint left.failed outcome := by
  obtain ⟨limit, failed⟩ := frames
  cases failed with
  | true =>
      cases performs
      exact ⟨rfl, .refused⟩
  | false =>
      unfold Framed.sending at performs
      rcases encodeFrame_cases codec message limit with ⟨error, refused, unfit⟩ | ⟨encoded, fits⟩
      · simp only [Framed.usable, refused] at performs
        cases performs
        exact ⟨rfl, .rejected unfit⟩
      · simp only [Framed.usable, encoded] at performs
        cases performs with
        | writeDropped part => exact ⟨rfl, .cut fits part nofun⟩
        | writeFailed part rest =>
            cases rest
            rw [Footprint.andThen_nothing]
            exact ⟨rfl, .cut fits part nofun⟩
        | written rest =>
            cases rest with
            | flushDropped =>
                refine ⟨rfl, ?_⟩
                simp only [Footprint.andThen_mk, List.append_nil]
                exact .cut fits (List.prefix_refl _) nofun
            | flushFailed rest =>
                cases rest
                refine ⟨rfl, ?_⟩
                simp only [Footprint.andThen_nothing, Footprint.andThen_mk, List.append_nil]
                exact .cut fits (List.prefix_refl _) nofun
            | flushed rest =>
                cases rest
                rw [Footprint.andThen_nothing, Footprint.andThen_nothing]
                exact ⟨rfl, .sent fits⟩

/-- The header of a frame that is within bounds is the one its body would be given. -/
theorem frame_of_header {limit : UInt32} {header body : List UInt8} (sized : header.length = 4)
    (full : body.length = ofLittle header) (within : ¬ (ofLittle header = 0 || ofLittle header > limit.toNat) = true) :
    Fits limit body ∧ header ++ body = frame body := by
  -- Four bytes hold one length in one way.
  have header_eq : header = little 4 body.length := by rw [full, ← sized, little_ofLittle]
  simp only [Bool.or_eq_true, decide_eq_true_eq, not_or, Nat.not_lt] at within
  refine ⟨⟨?_, full ▸ within.2⟩, by rw [frame, ← header_eq]⟩
  rintro rfl
  exact within.1 full.symm

theorem Got.dropped {taken : List UInt8} {clean : Bool} : Got codec limit false ⟨taken, [], clean⟩ true none :=
  .lost fun _ same => by cases same

theorem Got.failed {taken : List UInt8} {clean : Bool} {error : IoError} :
    Got codec limit false ⟨taken, [], clean⟩ true (some (.error error)) :=
  .lost fun _ same => by cases same

theorem performs_receiving {frames left : Framed} {footprint : Footprint} {outcome : Option (Except IoError M)}
    (performs : Performs (frames.receiving codec) footprint left outcome) :
    left.limit = frames.limit ∧ Got codec frames.limit frames.failed footprint left.failed outcome := by
  obtain ⟨limit, failed⟩ := frames
  cases failed with
  | true =>
      cases performs
      exact ⟨rfl, .refused⟩
  | false =>
      unfold Framed.receiving at performs
      simp only [Framed.usable] at performs
      cases performs with
      | readDropped => exact ⟨rfl, .dropped⟩
      | readFailed _ rest =>
          cases rest
          exact ⟨rfl, .failed⟩
      | @filled _ _ _ header _ _ _ sized rest =>
          simp only [Method.attempt] at rest
          split at rest
          · cases rest
            exact ⟨rfl, .failed⟩
          · rename_i within
            cases rest with
            | readDropped => exact ⟨rfl, .dropped⟩
            | readFailed _ rest =>
                cases rest
                exact ⟨rfl, .failed⟩
            | @filled _ _ _ body _ _ _ full rest =>
                simp only [decodeMessage] at rest
                obtain ⟨fits, whole⟩ := frame_of_header sized full within
                cases decoded : codec.decode limit body with
                | none =>
                    simp only [decoded] at rest
                    cases rest
                    exact ⟨rfl, .failed⟩
                | some message =>
                    simp only [decoded] at rest
                    cases rest
                    rw [Footprint.andThen_nothing, Footprint.andThen_mk, whole]
                    exact ⟨rfl, .received fits decoded⟩

end

inductive Request where
  | send (message : Control)
  | receive
  deriving DecidableEq, Repr

/-- What a call returns: nothing for a send, a message for a receive. -/
abbrev Reply := Except IoError (Option Control)

def Session.call (codec : Codec Control) (session : Session) (request : Request) : Method Session IoError Reply :=
  match request with
  | .send message => (session.send codec message).map (·.map fun _ => none)
  | .receive => (session.receive codec).map (·.map some)

def AsyncSession.call (codec : Codec Control) (session : AsyncSession) (request : Request) :
    Method AsyncSession IoError Reply :=
  match request with
  | .send message => (session.send codec message).map (·.map fun _ => none)
  | .receive => (session.receive codec).map (·.map some)

section
variable (codec : Codec Control) (agreement : Agreement)

/-- A message that a session may send. -/
structure Sendable (message : Control) : Prop where
  permitted : Permitted agreement message
  fits : Fits agreement.maxFrame (codec.encode message)

/-- What a call can do to a session of the agreement. The flags say whether it had failed before and after. -/
inductive Exchange : Bool → Request → Footprint → Option Reply → Bool → Prop where
  | refused {request : Request} {error : IoError} :
      Exchange true request .nothing (some (.error error)) true
  | rejected {message : Control} {error : IoError} : ¬ Sendable codec agreement message →
      Exchange false (.send message) .nothing (some (.error error)) false
  | sent {message : Control} : Sendable codec agreement message →
      Exchange false (.send message) ⟨[], frame (codec.encode message), true⟩ (some (.ok none)) false
  | cut {message : Control} {part : List UInt8} {outcome : Option Reply} : Sendable codec agreement message →
      part <+: frame (codec.encode message) → (∀ reply, outcome ≠ some (.ok reply)) →
      Exchange false (.send message) ⟨[], part, false⟩ outcome true
  | received {body : List UInt8} {message : Control} : Fits agreement.maxFrame body →
      codec.decode agreement.maxFrame body = some message → Permitted agreement message →
      Exchange false .receive ⟨frame body, [], true⟩ (some (.ok (some message))) false
  | lost {taken : List UInt8} {clean : Bool} {outcome : Option Reply} : (∀ reply, outcome ≠ some (.ok reply)) →
      Exchange false .receive ⟨taken, [], clean⟩ outcome true

end

/-! Both kinds of session make their calls on the codec they hold. -/

namespace Framed

/-- The send of a session of the agreement, on the codec it holds. -/
def sendingChecked (codec : Codec Control) (agreement : Agreement) (frames : Framed) (message : Control) :
    Method Framed IoError (Except IoError Unit) :=
  .attempt frames (agreement.check message) fun _ => frames.sending codec message

/-- The receive of a session of the agreement, on the codec it holds. -/
def receivingChecked (codec : Codec Control) (agreement : Agreement) (frames : Framed) :
    Method Framed IoError (Except IoError Control) :=
  (frames.receiving codec).bind fun frames received =>
  .attempt frames received fun message =>
  match agreement.check message with
  | .error error => .done { frames with failed := true } (.error error)
  | .ok () => .done frames (.ok message)

def call (codec : Codec Control) (agreement : Agreement) (frames : Framed) : Request → Method Framed IoError Reply
  | .send message => (frames.sendingChecked codec agreement message).map (·.map fun _ => none)
  | .receive => (frames.receivingChecked codec agreement).map (·.map some)

/-- A receive on the codec, as one of a session that holds it and can mark it as failed. -/
theorem receivingChecked_within {S : Type} (put : Framed → S) (agreed : S → Agreement) (poison : S → S)
    {agreement : Agreement} (same : ∀ frames, agreed (put frames) = agreement)
    (poisons : ∀ frames, poison (put frames) = put { frames with failed := true }) (codec : Codec Control)
    (frames : Framed) :
    (((frames.receiving codec).within put).bind fun session received =>
      .attempt session received fun message =>
      match (agreed session).check message with
      | .error error => .done (poison session) (.error error)
      | .ok () => .done session (.ok message)) =
    (frames.receivingChecked codec agreement).within put := by
  apply Method.bind_within
  intro frames received
  rw [Method.within_attempt]
  refine congrArg (Method.attempt _ received) (funext fun message => ?_)
  rw [same, poisons]
  cases agreement.check message <;> rfl

end Framed

theorem Session.send_eq (codec : Codec Control) (session : Session) (message : Control) :
    session.send codec message =
      (session.frames.sendingChecked codec session.agreement message).within fun frames => { session with frames } := by
  rw [Framed.sendingChecked, Method.within_attempt]
  rfl

theorem Session.receive_eq (codec : Codec Control) (session : Session) :
    session.receive codec =
      (session.frames.receivingChecked codec session.agreement).within fun frames => { session with frames } := by
  refine Framed.receivingChecked_within (S := Session) (fun frames => { session with frames }) Session.agreement
    (fun session => { session with frames := { session.frames with failed := true } }) ?_ ?_ codec session.frames
  · exact fun _ => rfl
  · exact fun _ => rfl

theorem Session.call_eq (codec : Codec Control) (session : Session) (request : Request) :
    session.call codec request =
      (session.frames.call codec session.agreement request).within fun frames => { session with frames } := by
  cases request with
  | send message => rw [Framed.call, Method.within_map, Session.call, Session.send_eq]
  | receive => rw [Framed.call, Method.within_map, Session.call, Session.receive_eq]

namespace AsyncSession

section
variable {M : Type} (codec : Codec M) (session : AsyncSession)

theorem sendingMessage_eq (message : M) :
    session.sendingMessage codec message =
      (session.frames.sending codec message).within fun frames => { session with failed := frames.failed } := by
  simp only [sendingMessage, Framed.sending, Method.within_attempt, Method.within]
  rfl

theorem receivingMessage_eq :
    session.receivingMessage codec =
      (session.frames.receiving codec).within fun frames => { session with failed := frames.failed } := by
  simp only [receivingMessage, Framed.receiving, Method.within_attempt, Method.within, apply_ite (Method.within _)]
  rfl

end

theorem send_eq (codec : Codec Control) (session : AsyncSession) (message : Control) :
    session.send codec message =
      (session.frames.sendingChecked codec session.agreement message).within fun frames =>
        { session with failed := frames.failed } := by
  rw [Framed.sendingChecked, Method.within_attempt, ← sendingMessage_eq]
  rfl

theorem receive_eq (codec : Codec Control) (session : AsyncSession) :
    session.receive codec =
      (session.frames.receivingChecked codec session.agreement).within fun frames =>
        { session with failed := frames.failed } := by
  rw [receive, receivingMessage_eq]
  refine Framed.receivingChecked_within (fun frames => { session with failed := frames.failed })
    AsyncSession.agreement (fun session => { session with failed := true }) ?_ ?_ codec session.frames
  · exact fun _ => rfl
  · exact fun _ => rfl

theorem call_eq (codec : Codec Control) (session : AsyncSession) (request : Request) :
    session.call codec request =
      (session.frames.call codec session.agreement request).within fun frames =>
        { session with failed := frames.failed } := by
  cases request with
  | send message => rw [Framed.call, Method.within_map, call, send_eq]
  | receive => rw [Framed.call, Method.within_map, call, receive_eq]

end AsyncSession

section
variable {codec : Codec Control} {agreement : Agreement} {frames left : Framed} {footprint : Footprint}

theorem performs_sendingChecked {message : Control} {outcome : Option (Except IoError Unit)}
    (agreed : frames.limit = agreement.maxFrame)
    (performs : Performs (frames.sendingChecked codec agreement message) footprint left outcome) :
    left.limit = agreement.maxFrame ∧
    Exchange codec agreement frames.failed (.send message) footprint (outcome.map (·.map fun _ => none)) left.failed := by
  unfold Framed.sendingChecked at performs
  cases checked : agreement.check message with
  | error error =>
      rw [checked] at performs
      cases performs
      refine ⟨agreed, ?_⟩
      cases frames.failed with
      | true => exact .refused
      | false =>
          refine .rejected fun sendable => ?_
          have passed := check_eq_ok.mpr sendable.permitted
          rw [checked] at passed
          cases passed
  | ok =>
      have permitted := check_eq_ok.mp checked
      rw [checked] at performs
      obtain ⟨kept, sent⟩ := performs_sending performs
      rw [agreed] at kept sent
      refine ⟨kept, ?_⟩
      generalize frames.failed = found, left.failed = failed at sent
      cases sent with
      | refused => exact .refused
      | rejected unfit => exact .rejected fun sendable => unfit sendable.fits
      | sent fits => exact .sent ⟨permitted, fits⟩
      | cut fits part unsent =>
          refine .cut ⟨permitted, fits⟩ part fun reply same => ?_
          rcases outcome with _ | _ | _
          · cases same
          · cases same
          · exact unsent rfl

theorem performs_receivingChecked {outcome : Option (Except IoError Control)}
    (agreed : frames.limit = agreement.maxFrame)
    (performs : Performs (frames.receivingChecked codec agreement) footprint left outcome) :
    left.limit = agreement.maxFrame ∧
    Exchange codec agreement frames.failed .receive footprint (outcome.map (·.map some)) left.failed := by
  cases performs_bind performs with
  | dropped first =>
      obtain ⟨kept, got⟩ := performs_receiving first
      rw [agreed] at kept got
      refine ⟨kept, ?_⟩
      generalize frames.failed = found, left.failed = failed at got
      cases got
      exact .lost nofun
  | @through _ _ middle _ value _ first rest =>
      obtain ⟨kept, got⟩ := performs_receiving first
      rw [agreed] at kept got
      obtain ⟨limit, failed⟩ := middle
      generalize frames.failed = found at got
      cases value with
      | error error =>
          cases rest
          rw [Footprint.andThen_nothing]
          refine ⟨kept, ?_⟩
          cases got with
          | refused => exact .refused
          | lost => exact .lost nofun
      | ok message =>
          cases got with
          | lost never => exact absurd rfl (never message)
          | received fits decoded =>
              simp only [Method.attempt] at rest
              cases checked : agreement.check message with
              | error error =>
                  simp only [checked] at rest
                  cases rest
                  exact ⟨kept, .lost nofun⟩
              | ok =>
                  simp only [checked] at rest
                  cases rest
                  rw [Footprint.andThen_nothing]
                  exact ⟨kept, .received fits decoded (check_eq_ok.mp checked)⟩

theorem performs_call {request : Request} {outcome : Option Reply} (agreed : frames.limit = agreement.maxFrame)
    (performs : Performs (frames.call codec agreement request) footprint left outcome) :
    left.limit = agreement.maxFrame ∧
    Exchange codec agreement frames.failed request footprint outcome left.failed := by
  cases request with
  | send message =>
      obtain ⟨_, rfl, checked⟩ := performs_map performs
      exact performs_sendingChecked agreed checked
  | receive =>
      obtain ⟨_, rfl, checked⟩ := performs_map performs
      exact performs_receivingChecked agreed checked

end

/-- A call as a session of either kind shows it: with whether it had failed before and after. -/
abbrev Entry := Record Request Bool Reply

/-- Calls on a session that has failed or not before them. -/
inductive Exchanges (codec : Codec Control) (agreement : Agreement) : Bool → List Entry → Prop where
  | nil {found : Bool} : Exchanges codec agreement found []
  | cons {found : Bool} {entry : Entry} {later : List Entry} : entry.found = found →
      Exchange codec agreement found entry.request entry.footprint entry.outcome entry.left →
      Exchanges codec agreement entry.left later → Exchanges codec agreement found (entry :: later)

section
variable {codec : Codec Control} {agreement : Agreement}

/-- The calls of an object that makes them on a codec it holds, and keeps its agreement. -/
theorem exchanges_of_within {S : Type} {call : Request → S → Method S IoError Reply} (frames : S → Framed)
    (agreed : S → Agreement) (put : S → Framed → S)
    (calls : ∀ request session,
      call request session = ((frames session).call codec (agreed session) request).within (put session))
    (agreed_put : ∀ session after, agreed (put session after) = agreed session)
    (frames_put : ∀ session after, after.limit = (agreed session).maxFrame → frames (put session after) = after)
    {session : S} {records : List (Record Request S Reply)} (limit : (frames session).limit = agreement.maxFrame)
    (same : agreed session = agreement) (history : History call session records) :
    Exchanges codec agreement (frames session).failed (records.map (·.view fun session => (frames session).failed)) := by
  induction history with
  | nil => exact .nil
  | @cons session record later found performs _ ih =>
      rw [calls, same] at performs
      obtain ⟨after, left, made⟩ := performs_within performs
      obtain ⟨kept, exchange⟩ := performs_call limit made
      have held : frames record.left = after := by
        rw [left]
        exact frames_put session after (same ▸ kept)
      have rest := ih (held ▸ kept) (left ▸ (agreed_put session after).trans same)
      rw [List.map_cons]
      refine .cons (congrArg (fun session => (frames session).failed) found) ?_ rest
      simpa only [Record.view, held] using exchange

theorem Session.exchanges {session : Session} {records : List (Record Request Session Reply)}
    (agreed : session.frames.limit = agreement.maxFrame) (same : session.agreement = agreement)
    (history : History (fun request session => session.call codec request) session records) :
    Exchanges codec agreement session.frames.failed (records.map (·.view (·.frames.failed))) :=
  exchanges_of_within Session.frames Session.agreement (fun session frames => { session with frames })
    (fun request session => session.call_eq codec request) (fun _ _ => rfl) (fun _ _ _ => rfl) agreed same history

theorem AsyncSession.exchanges {session : AsyncSession} {records : List (Record Request AsyncSession Reply)}
    (same : session.agreement = agreement)
    (history : History (fun request session => session.call codec request) session records) :
    Exchanges codec agreement session.failed (records.map (·.view (·.failed))) := by
  refine exchanges_of_within AsyncSession.frames AsyncSession.agreement
    (fun session frames => { session with failed := frames.failed })
    (fun request session => session.call_eq codec request) (fun _ _ => rfl) (fun session after within => ?_)
    (congrArg Agreement.maxFrame same) same history
  -- The async session does not hold its limit: it is the agreement's.
  obtain ⟨limit, failed⟩ := after
  cases within
  rfl

end

/-- A call after which nothing is known about the stream: an operation on the transport failed or was
dropped, or a receive did not get a message. -/
def Uncertain (entry : Entry) : Prop :=
  entry.footprint.clean = false ∨ (entry.request = .receive ∧ ∀ reply, entry.outcome ≠ some (.ok reply))

/-- A call that moved no byte and returned an error. -/
structure Idle (entry : Entry) : Prop where
  unread : entry.footprint.taken = []
  unwritten : entry.footprint.given = []
  failed : ∃ error, entry.outcome = some (.error error)

/-- The message of a send that succeeded. -/
def delivered? (entry : Entry) : Option Control :=
  match entry.request, entry.outcome with
  | .send message, some (.ok _) => some message
  | _, _ => none

/-- What the calls on a session of the agreement keep. -/
structure Disciplined (codec : Codec Control) (agreement : Agreement) (entries : List Entry) : Prop where
  dead : ∀ before entry after, entries = before ++ entry :: after → Uncertain entry → ∀ later ∈ after, Idle later
  rejected : ∀ entry ∈ entries, ∀ message, entry.request = .send message → ¬ Sendable codec agreement message →
    Idle entry ∧ entry.left = entry.found
  sent : ∀ entry ∈ entries, ∀ message, delivered? entry = some message → Permitted agreement message ∧
    entry.footprint = ⟨[], frame (codec.encode message), true⟩
  received : ∀ entry ∈ entries, ∀ message, entry.outcome = some (.ok (some message)) →
    entry.request = .receive ∧ Permitted agreement message ∧
    ∃ body, Fits agreement.maxFrame body ∧ codec.decode agreement.maxFrame body = some message ∧
      entry.footprint = ⟨frame body, [], true⟩
  -- Each frame is written once, in the order of the sends, and at most one more is begun.
  stream : ∃ tail, entries.flatMap (·.footprint.given) =
      (entries.filterMap delivered?).flatMap (fun message => frame (codec.encode message)) ++ tail ∧
    (tail ≠ [] → ∃ entry ∈ entries, Uncertain entry ∧
      ∃ message, entry.request = .send message ∧ tail <+: frame (codec.encode message))

section
variable {codec : Codec Control} {agreement : Agreement}

theorem Exchange.left_of_uncertain {entry : Entry} {found : Bool}
    (exchange : Exchange codec agreement found entry.request entry.footprint entry.outcome entry.left)
    (uncertain : Uncertain entry) : entry.left = true := by
  obtain ⟨request, _, footprint, outcome, left⟩ := entry
  cases exchange with
  | refused | cut | lost => rfl
  | rejected | sent | received => simp [Uncertain] at uncertain

namespace Exchanges

variable {found : Bool} {entries : List Entry}

theorem each (exchanges : Exchanges codec agreement found entries) :
    ∀ entry ∈ entries,
      Exchange codec agreement entry.found entry.request entry.footprint entry.outcome entry.left := by
  induction exchanges with
  | nil => exact List.forall_mem_nil _
  | cons same exchange _ ih =>
      intro entry mem
      rcases List.mem_cons.mp mem with rfl | mem
      · rw [same]
        exact exchange
      · exact ih entry mem

theorem idle (exchanges : Exchanges codec agreement true entries) : ∀ entry ∈ entries, Idle entry := by
  generalize dead : true = found at exchanges
  induction exchanges with
  | nil => exact List.forall_mem_nil _
  | @cons _ entry later _ exchange _ ih =>
      subst dead
      obtain ⟨request, _, footprint, outcome, left⟩ := entry
      cases exchange
      rw [List.forall_mem_cons]
      exact ⟨⟨rfl, rfl, _, rfl⟩, ih rfl⟩

theorem after {before : List Entry} {entry : Entry} {later : List Entry}
    (exchanges : Exchanges codec agreement found (before ++ entry :: later)) :
    Exchanges codec agreement entry.left later := by
  induction before generalizing found with
  | nil =>
      cases exchanges with
      | cons _ _ rest => exact rest
  | cons _ _ ih =>
      cases exchanges with
      | cons _ _ rest => exact ih rest

theorem silent (exchanges : Exchanges codec agreement true entries) :
    entries.flatMap (·.footprint.given) = [] ∧ entries.filterMap delivered? = [] := by
  have idle := exchanges.idle
  constructor
  · simpa using fun entry mem => (idle entry mem).unwritten
  · rw [List.filterMap_eq_nil_iff]
    intro entry mem
    obtain ⟨error, failed⟩ := (idle entry mem).failed
    cases request : entry.request <;> simp [delivered?, request, failed]

theorem stream (exchanges : Exchanges codec agreement found entries) :
    ∃ tail, entries.flatMap (·.footprint.given) =
        (entries.filterMap delivered?).flatMap (fun message => frame (codec.encode message)) ++ tail ∧
      (tail ≠ [] → ∃ entry ∈ entries, Uncertain entry ∧
        ∃ message, entry.request = .send message ∧ tail <+: frame (codec.encode message)) := by
  induction exchanges with
  | nil => exact ⟨[], rfl, fun some_ => absurd rfl some_⟩
  | @cons _ entry later _ exchange rest ih =>
      obtain ⟨tail, written, begun⟩ := ih
      have begun : tail ≠ [] → ∃ other ∈ entry :: later, Uncertain other ∧
          ∃ message, other.request = .send message ∧ tail <+: frame (codec.encode message) := by
        intro some_
        obtain ⟨other, mem, more⟩ := begun some_
        exact ⟨other, List.mem_cons_of_mem _ mem, more⟩
      have quiet (unwritten : entry.footprint.given = []) (undelivered : delivered? entry = none) :
          (entry :: later).flatMap (·.footprint.given) =
            ((entry :: later).filterMap delivered?).flatMap (fun message => frame (codec.encode message)) ++ tail := by
        rw [List.flatMap_cons, unwritten, List.filterMap_cons_none undelivered, List.nil_append, written]
      obtain ⟨request, before, footprint, outcome, left⟩ := entry
      cases exchange with
      | refused => exact ⟨tail, quiet rfl (by cases request <;> rfl), begun⟩
      | rejected => exact ⟨tail, quiet rfl rfl, begun⟩
      | received => exact ⟨tail, quiet rfl rfl, begun⟩
      | lost => exact ⟨tail, quiet rfl rfl, begun⟩
      | @sent message sendable =>
          have delivers : delivered? ⟨.send message, before, ⟨[], frame (codec.encode message), true⟩,
              some (.ok none), false⟩ = some message := rfl
          refine ⟨tail, ?_, begun⟩
          rw [List.flatMap_cons, List.filterMap_cons_some delivers, List.flatMap_cons, written, List.append_assoc]
      | @cut message part _ sendable cut unsent =>
          -- Nothing follows the part of a frame.
          have undelivered : delivered? ⟨.send message, before, ⟨[], part, false⟩, outcome, true⟩ = none := by
            rcases outcome with _ | _ | reply
            · rfl
            · rfl
            · exact absurd rfl (unsent reply)
          refine ⟨part, ?_, fun _ => ⟨_, List.mem_cons_self, .inl rfl, message, rfl, cut⟩⟩
          rw [List.flatMap_cons, List.filterMap_cons_none undelivered, rest.silent.1, rest.silent.2, List.append_nil]
          rfl

theorem disciplined (exchanges : Exchanges codec agreement found entries) : Disciplined codec agreement entries where
  dead before entry after split uncertain := by
    have exchange := exchanges.each entry (by simp [split])
    rw [split] at exchanges
    have rest := exchanges.after
    rw [exchange.left_of_uncertain uncertain] at rest
    exact rest.idle
  rejected entry mem message request unfit := by
    have exchange := exchanges.each entry mem
    obtain ⟨asked, before, footprint, outcome, left⟩ := entry
    cases request
    cases exchange with
    | refused => exact ⟨⟨rfl, rfl, _, rfl⟩, rfl⟩
    | rejected => exact ⟨⟨rfl, rfl, _, rfl⟩, rfl⟩
    | sent sendable => exact absurd sendable unfit
    | cut sendable => exact absurd sendable unfit
  sent entry mem message given := by
    have exchange := exchanges.each entry mem
    obtain ⟨asked, before, footprint, outcome, left⟩ := entry
    cases exchange with
    | refused => cases asked <;> cases given
    | rejected => cases given
    | sent sendable =>
        cases given
        exact ⟨sendable.permitted, rfl⟩
    | cut _ _ unsent =>
        rcases outcome with _ | _ | reply
        · cases given
        · cases given
        · exact absurd rfl (unsent reply)
    | received => cases given
    | lost => cases given
  received entry mem message returned := by
    have exchange := exchanges.each entry mem
    obtain ⟨asked, before, footprint, outcome, left⟩ := entry
    cases returned
    cases exchange with
    | cut _ _ unsent => exact absurd rfl (unsent _)
    | lost never => exact absurd rfl (never _)
    | received fits decoded permitted => exact ⟨rfl, permitted, _, fits, decoded, rfl⟩
  stream := exchanges.stream

end Exchanges

end

/-- Whatever the transport does, and wherever calls are dropped, both kinds of session keep the discipline. A blocking
call is never dropped, so its histories are some of those here. -/
theorem sessions_disciplined (codec : Codec Control) (agreement : Agreement) :
    (∀ records : List (Record Request Session Reply),
      History (fun request session => session.call codec request) ⟨⟨agreement.maxFrame, false⟩, agreement⟩ records →
      Disciplined codec agreement (records.map (·.view (·.frames.failed)))) ∧
    (∀ records : List (Record Request AsyncSession Reply),
      History (fun request session => session.call codec request) ⟨agreement, false⟩ records →
      Disciplined codec agreement (records.map (·.view (·.failed)))) := by
  constructor
  · intro records history
    exact (Session.exchanges rfl rfl history).disciplined
  · intro records history
    exact (AsyncSession.exchanges rfl history).disciplined

end KunobiDaemon.Wire
