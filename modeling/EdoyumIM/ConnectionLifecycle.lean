import EdoyumIM.ConnectionPhases

/-!
What holds of every connection over whole runs of the loop: the handlers and the
functors take it from phase to phase, so no assertion fails, its callbacks come
in order and only once, and its output reaches the kernel unchanged.
-/

namespace EdoyumIM.ConnectionLifecycle

open MachineWords OrderedStore NetBuffer TcpConnections ConnectionPhases

/-! The handlers. -/
section Handlers

variable (app : App) {running : List Functor} {server : Server} {id : Nat}
  {conn : TcpConnection}

theorem callback_kept {closing : Option Nat} {next : TcpConnection} {labels : List Seen}
    {label : Seen} (closable : Nat → Prop) (base : Server)
    (sound : Sound closing running (edit id next [] (labels ++ [label]) base)) :
    Kept closing running closable (edit id next [] (labels ++ [label]) base)
      (callback app label (edit id next [] labels base)) := by
  rw [callback, edit_log]
  exact calls_sound closable _ sound

/-- Another note about a connection, whatever its phase. -/
theorem noted_sound {closing : Option Nat} (sound : Sound closing running server)
    (held : server.objects[id]? = some conn) (label : Seen) (own : subject label = id)
    (lifeless : isLife label = false) (flowless : isFlow label = false) :
    Sound closing running (edit id conn [] [label] server) := by
  obtain ⟨-, ⟨phase, here, marks⟩, flow⟩ := sound.conns id conn held
  refine sound_edit closing sound held rfl rfl (by simp) (by simp [own]) (fun _ _ => Iff.rfl)
    ⟨phase, ?_, marks⟩ ?_
  · obtain ⟨reads, life⟩ := here.life
    refine ⟨here.settled, here.state, here.reading, here.writing, here.index, here.registered,
      here.named, ?_, reads, ?_⟩
    · rw [List.append_nil]
      exact here.waiting
    · rw [List.filter_append, List.filter_singleton, lifeless]
      exact (List.append_nil _).trans life
  · refine flow_edit flow ?_ flow.writing ?_
    · cases label <;> simp_all [sentPart, wrotePart, isFlow]
    · rw [List.filter_append, List.filter_singleton, flowless]
      have apart : .shutdownWrite id ≠ label := by
        rintro rfl
        simp [isFlow] at flowless
      simpa [apart] using flow.last

theorem removeConnection_sound (sound : Sound (some id) running server)
    (held : server.objects[id]? = some conn) :
    Kept none running (· = id) server (removeConnection id server) := by
  obtain ⟨-, ⟨phase, here, marks⟩, -⟩ := sound.conns id conn held
  obtain rfl : phase = .closing := marks.mpr rfl
  have named : server.connections.find? conn.name = some id := here.named.mpr (Or.inr rfl)
  have inside : id < server.objects.length := (List.getElem?_eq_some_iff.mp held).1
  refine ⟨{ server with
      connections := server.connections.erase conn.name
      pendingFunctors := server.pendingFunctors ++ [.connectDestroyed id] }, ?_,
    ⟨?_, sound.numbered, ?_, sound.registered, ?_, sound.known⟩, Carried.of_objects rfl, rfl⟩
  · simp [removeConnection, held, named, Server.queueInLoop]
  · intro other conn' held'
    obtain ⟨name', ⟨phase', here', marks'⟩, flow'⟩ := sound.conns other conn' held'
    by_cases own : other = id
    · subst own
      obtain rfl := Option.some.inj (held.symm.trans held')
      refine ⟨name', ⟨.removed, ⟨here.settled, by simpa using here.state,
        by simpa using here.reading, fun _ => here.writing (by simp), here.index,
        iff_of_true (here.registered.mpr (by simp)) (by simp), ?_, ?_, here.life⟩, by simp⟩, flow'⟩
      · simp [viewOf, OrderedMap.find?_erase]
      · have none := here.waiting
        simp only [viewOf, reduceCtorEq, ↓reduceIte] at none
        simp [viewOf, ← List.append_assoc, List.count_append, none]
    · refine ⟨name', ⟨phase', ⟨here'.settled, here'.state, here'.reading, here'.writing,
        here'.index, here'.registered, ?_, ?_, here'.life⟩, ?_⟩, flow'⟩
      · -- the erased entry was another one's
        refine Iff.trans ?_ here'.named
        simp only [viewOf, OrderedMap.find?_erase]
        split_ifs with same
        · simp [same, named, Ne.symm own]
        · rfl
      · have waiting := here'.waiting
        simp only [viewOf] at waiting ⊢
        rw [← List.append_assoc, List.count_append, waiting,
          count_other id other _ own (by simp [about]), Nat.add_zero]
      · rw [marks']
        simp [Ne.symm own]
  · intro name other listed
    rw [OrderedMap.find?_erase] at listed
    split_ifs at listed
    exact sound.named name other listed
  · intro functor member
    rw [← List.append_assoc] at member
    rcases List.mem_append.mp member with before | new
    · exact sound.queued functor before
    · rw [List.mem_singleton.mp new]
      exact inside

/-- Closing an open connection: the callback comes once, the server forgets it,
and its destruction is queued. -/
theorem handleClose_exact (sound : Sound none running server)
    (held : server.objects[id]? = some conn) (live : conn.state ≠ .kDisconnected) :
    ∃ after, handleClose app id conn server = some after ∧ Sound none running after ∧
      Carried (· = id) server after ∧ after.objects.length = server.objects.length ∧
      ∃ closed, after.objects[id]? = some closed ∧ closed.state = .kDisconnected := by
  obtain ⟨index, registered, -, -, flow, state⟩ := opened_facts sound held live
  obtain ⟨phase, here, marks⟩ := (sound.conns id conn held).phase
  obtain rfl := opened_of_state here live
  have unchanged := edit_self id conn server held
  have inside : id < server.objects.length := (List.getElem?_eq_some_iff.mp held).1
  let closed : TcpConnection := { conn with
    state := .kDisconnected
    channel := { fd := conn.channel.fd, index := .kDeleted, addedToLoop := true } }
  have disabled : updateChannel id { conn with
      state := .kDisconnected
      channel := { conn.channel with reading := false, writing := false } } server =
      some (edit id closed [] [] server) := by
    rw [updateChannel_added _ _ _ (by exact index) (by exact registered), ← unchanged, edit_store,
      unchanged]
    rfl
  have down : Sound (some id) running (edit id closed [] ([] ++ [.down id]) server) := by
    refine sound_edit (some id) sound held rfl rfl (by simp) (by simp [subject]) ?_
      ⟨.closing, ?_, by simp⟩ ?_
    · intro other own
      simp [Ne.symm own]
    · obtain ⟨reads, life⟩ := here.life
      have waiting := here.waiting
      refine ⟨by simp [closed], by simp [closed], by simp [closed], fun _ => rfl, rfl,
        iff_of_true registered (by simp), iff_of_true (here.named.mpr (Or.inl rfl)) (Or.inr rfl),
        ?_, reads, ?_⟩
      · simpa [viewOf] using waiting
      · simp only [viewOf, Phase.last, List.append_nil] at life
        simp [List.filter_append, life, isLife, Phase.last]
    · refine flow_edit flow (by simp [sentPart, wrotePart, closed]) (by simp [closed]) ?_
      rcases flow.last with none | ⟨-, empty, shut⟩
      · exact Or.inl (by simpa using none)
      · exact Or.inr ⟨by simp [closed], empty, by simpa [List.filter_append, isFlow] using shut⟩
  rw [handleClose, if_pos state, disabled]
  obtain ⟨called, ran, still, carried, size⟩ := callback_kept app (· = id) server down
  -- calls leave a disconnected connection as it is
  obtain ⟨next, heldNext, -, gone, -⟩ := carried.2 id closed
    (by rw [edit_objects _ _ _ _ _ _ inside, if_pos rfl])
  rw [gone rfl] at heldNext
  obtain ⟨after, removed, done, further, sizes⟩ := removeConnection_sound still heldNext
  obtain ⟨last, heldLast, -, same, -⟩ := further.2 id closed heldNext
  refine ⟨after, ?_, done, ?_, ?_, last, heldLast, by rw [same rfl]⟩
  · simp only [Option.bind_eq_bind, Option.bind_some, ran, removed]
  · have first : Carried (· = id) server (edit id closed [] ([] ++ [.down id]) server) :=
      carried_edit held live rfl (by simp)
    exact first.trans (carried.trans further)
  · simpa [edit] using sizes.trans size

theorem handleClose_sound (sound : Sound none running server)
    (held : server.objects[id]? = some conn) (live : conn.state ≠ .kDisconnected) :
    Kept none running (· = id) server (handleClose app id conn server) := by
  obtain ⟨after, ran, kept, carried, size, -⟩ := handleClose_exact app sound held live
  exact ⟨after, ran, kept, carried, size⟩

theorem handleRead_sound (sound : Sound none running server)
    (held : server.objects[id]? = some conn) (live : conn.state ≠ .kDisconnected)
    (answer : Option Bytes) :
    Kept none running (· = id) server (handleRead app id conn answer server) := by
  obtain ⟨-, -, -, -, flow, state⟩ := opened_facts sound held live
  have unchanged := edit_self id conn server held
  cases answer with
  | none => exact kept_self sound
  | some data =>
      cases data with
      | nil => exact handleClose_sound app sound held live
      | cons first rest =>
          have message : Sound none running
              (edit id conn [] ([] ++ [.message id (first :: rest)]) server) := by
            refine sound_opened sound held live ⟨rfl, rfl, rfl, rfl, state⟩ (by simp) (by simp)
              (by simp [subject]) [first :: rest] rfl
              (flow_edit flow (by simp [sentPart, wrotePart]) flow.writing ?_)
            simpa [List.filter_append, isFlow] using flow.last
          obtain ⟨after, ran, still, carried, size⟩ :=
            callback_kept app (· = id) server message
          rw [unchanged] at ran
          have first' : Carried (· = id) server
              (edit id conn [] ([] ++ [.message id (first :: rest)]) server) :=
            carried_edit held live rfl (fun _ => live)
          exact ⟨after, ran, still, first'.trans carried, by simpa [edit] using size⟩

/-- A drained connection that was being shut down shuts its write end. -/
theorem handleWrite_sound (sound : Sound none running server)
    (held : server.objects[id]? = some conn) (answer : WriteAnswer) :
    Kept none running (· = id) server (handleWrite id conn answer server) := by
  rw [handleWrite]
  by_cases busy : conn.channel.writing = true
  swap
  · rw [if_neg busy]
    exact kept_self sound
  rw [if_pos busy]
  have live : conn.state ≠ .kDisconnected := by
    intro gone
    obtain ⟨phase, here, -⟩ := (sound.conns id conn held).phase
    rw [here.writing (here.state.mp gone)] at busy
    cases busy
  obtain ⟨index, registered, reading, -, flow, state⟩ := opened_facts sound held live
  have waits := (flow.writing live).mp busy
  have unshut : .shutdownWrite id ∉ seenOf id server.seen := by
    rcases flow.last with none | ⟨-, empty, -⟩
    · exact none
    · exact absurd empty waits
  have unchanged := edit_self id conn server held
  have length := conn.outputBuffer.readable_length
  generalize count : answer.accepted conn.outputBuffer.readableBytes = n
  by_cases some : 0 < n
  swap
  · simp only [some, ↓reduceIte]
    exact kept_self sound
  have within : n ≤ conn.outputBuffer.readable.length := by
    rw [length, ← count]
    cases answer <;> simp [WriteAnswer.accepted]
  have cut := conn.outputBuffer.retrieve_readable n
  rw [if_pos within] at cut
  obtain ⟨output, taken, left⟩ := Option.map_eq_some_iff.mp cut
  have wrote : server.log (.wrote id (conn.outputBuffer.readable.take n)) =
      edit id conn [] [.wrote id (conn.outputBuffer.readable.take n)] server := by
    rw [← unchanged, edit_log, unchanged]
    rfl
  have balance : conn.outputBuffer.readable ++ [].flatMap sentPart =
      [Seen.wrote id (conn.outputBuffer.readable.take n)].flatMap wrotePart ++ output.readable := by
    simp [wrotePart, left]
  simp only [some, ↓reduceIte, wrote, taken, Option.bind_eq_bind, Option.bind_some]
  by_cases drained : output.readableBytes = 0
  swap
  · rw [if_neg drained, edit_store]
    have more : output.readable ≠ [] := by
      intro empty
      rw [← output.readable_length, empty] at drained
      exact drained rfl
    have continues : Continues conn { conn with outputBuffer := output } :=
      ⟨rfl, rfl, rfl, rfl, state⟩
    refine kept_edit held live continues (sound_opened sound held live continues (by simp)
      (by simp) (by simp [subject]) [] rfl
      (flow_edit flow balance (fun _ => iff_of_true busy more) (Or.inl ?_)))
    simpa using unshut
  · have empty : output.readable = [] :=
      List.eq_nil_of_length_eq_zero (by rw [output.readable_length, drained])
    let idle : TcpConnection := { conn with
      outputBuffer := output
      channel := { conn.channel with writing := false, addedToLoop := true, index := .kAdded } }
    have continues : Continues conn idle := ⟨rfl, rfl, rfl, index.symm, state⟩
    have updated : updateChannel id { conn with
        outputBuffer := output
        channel := { conn.channel with writing := false } }
        (edit id conn [] [.wrote id (conn.outputBuffer.readable.take n)] server) =
        Option.some (edit id idle [] [.wrote id (conn.outputBuffer.readable.take n)] server) := by
      rw [updateChannel_added _ _ _ (by exact index) (by exact registered), edit_store]
      simp [Channel.isNoneEvent, reading, idle]
    obtain ⟨functors, noted, own, kept⟩ : ∃ functors,
        (if server.hasWriteComplete = true then
          (edit id idle [] [.wrote id (conn.outputBuffer.readable.take n)] server).queueInLoop
            (.writeComplete id)
        else edit id idle [] [.wrote id (conn.outputBuffer.readable.take n)] server) =
          edit id idle functors [.wrote id (conn.outputBuffer.readable.take n)] server ∧
        (∀ functor ∈ functors, about functor = id) ∧ .connectDestroyed id ∉ functors := by
      split_ifs
      · exact ⟨[.writeComplete id], edit_queueInLoop _ _ _ _ _ _, by simp [about], by simp⟩
      · exact ⟨[], rfl, by simp, by simp⟩
    have still : idle.state ≠ .kDisconnected →
        (idle.channel.writing = true ↔ idle.outputBuffer.readable ≠ []) := by
      simp [idle, empty]
    simp only [drained, ↓reduceIte, updated, Option.bind_some, noted]
    by_cases closing : conn.state = .kDisconnecting
    · rw [if_pos closing, shutdownInLoop, if_neg (by simp), edit_log]
      refine kept_edit held live continues (sound_opened sound held live continues own kept
        (by simp [subject]) [] rfl (flow_edit flow ?_ still (Or.inr ⟨?_, empty, ?_⟩)))
      · simpa [List.flatMap_append, sentPart, wrotePart] using balance
      · simp [idle, closing]
      · rw [← List.append_assoc]
        exact shut_last (by simpa using unshut)
    · rw [if_neg closing]
      refine kept_edit held live continues (sound_opened sound held live continues own kept
        (by simp [subject]) [] rfl (flow_edit flow balance still (Or.inl ?_)))
      simpa using unshut

/-- A hang-up without data to read comes without anything else to read. -/
def Plain (revents : Revents) : Prop :=
  revents.hup = true → revents.readIn = false → revents.pri = false ∧ revents.rdhup = false

instance instDecidablePlain (revents : Revents) : Decidable (Plain revents) :=
  inferInstanceAs (Decidable (_ → _ → _))

theorem handleEvent_sound (sound : Sound none running server)
    (held : server.objects[id]? = some conn) (live : conn.state ≠ .kDisconnected)
    (revents : Revents) (read : Option Bytes) (write : WriteAnswer) (plain : Plain revents) :
    Kept none running (· = id) server (handleEvent app id revents read write server) := by
  -- the write part runs on whatever the parts before it left
  have rest (middle : Server) (kept : Sound none running middle)
      (carried : Carried (· = id) server middle) :
      Kept none running (· = id) middle
        (if revents.out = true then onObject id (fun conn => handleWrite id conn write) middle
        else some middle) := by
    obtain ⟨next, heldNext, -, -, -⟩ := carried.2 id conn held
    split_ifs
    · simp only [onObject, heldNext]
      exact handleWrite_sound kept heldNext write
    · exact kept_self kept
  rw [handleEvent]
  by_cases hangup : (revents.hup && !revents.readIn) = true
  · have quiet : (revents.readIn || revents.pri || revents.rdhup) = false := by
      obtain ⟨hup, noIn⟩ := Bool.and_eq_true_iff.mp hangup
      have noIn : revents.readIn = false := by simpa using noIn
      obtain ⟨noPri, noRdhup⟩ := plain hup noIn
      simp [noIn, noPri, noRdhup]
    have found : onObject id (handleClose app id) server = handleClose app id conn server := by
      simp only [onObject, held]
    simp only [hangup, quiet, ↓reduceIte, Bool.false_eq_true, found]
    exact (handleClose_sound app sound held live).then fun middle _ kept carried =>
      rest middle kept carried
  · simp only [hangup, Bool.false_eq_true, ↓reduceIte, Option.bind_eq_bind, Option.bind_some]
    by_cases reads : (revents.readIn || revents.pri || revents.rdhup) = true
    · have found : onObject id (fun conn => handleRead app id conn read) server =
          handleRead app id conn read server := by
        simp only [onObject, held]
      rw [if_pos reads, found]
      exact (handleRead_sound app sound held live read).then fun middle _ kept carried =>
        rest middle kept carried
    · rw [if_neg reads]
      exact rest server sound (Carried.refl _ server)

/-- Otherwise the read part meets a closed connection, and the end of the stream
closes it a second time. -/
theorem hangup_aborts (sound : Sound none running server)
    (held : server.objects[id]? = some conn) (live : conn.state ≠ .kDisconnected)
    (revents : Revents) (write : WriteAnswer) (hup : revents.hup = true)
    (noIn : revents.readIn = false) (more : revents.pri = true ∨ revents.rdhup = true) :
    handleEvent app id revents (some []) write server = none := by
  obtain ⟨after, ran, -, -, -, closed, heldClosed, gone⟩ := handleClose_exact app sound held live
  have found : onObject id (handleClose app id) server = some after := by
    simp only [onObject, held, ran]
  have reads : (revents.readIn || revents.pri || revents.rdhup) = true := by
    rcases more with more | more <;> simp [more]
  have again : onObject id (fun conn => handleRead app id conn (some [])) after = none := by
    simp [onObject, heldClosed, handleRead, handleClose, gone]
  rw [handleEvent, hup, noIn]
  simp only [Bool.not_false, Bool.and_self, ↓reduceIte, found, Option.bind_eq_bind,
    Option.bind_some]
  rw [← noIn, reads, if_pos rfl, again]
  rfl

theorem connName_inj (namePrefix : Bytes) {left right : Nat}
    (same : connName namePrefix left = connName namePrefix right) : left = right := by
  have reads (number : Nat) :
      ((Nat.toDigits 10 number).map fun letter => UInt8.ofNat letter.toNat).map
        (fun byte => Char.ofNat byte.toNat) = Nat.toDigits 10 number := by
    rw [List.map_map]
    refine (List.map_congr_left fun letter member => ?_).trans (List.map_id _)
    obtain ⟨-, high⟩ := Char.isDigit_iff_toNat.mp
      (Nat.isDigit_of_mem_toDigits (by decide) (by decide) member)
    have small : letter.toNat % 256 = letter.toNat :=
      Nat.mod_eq_of_lt (Nat.lt_of_le_of_lt high (by decide))
    simp only [Function.comp_apply, UInt8.toNat_ofNat', small, Char.ofNat_toNat, id_eq]
  have digits := List.append_cancel_left same
  have value := congrArg (Nat.ofDigitChars 10 · 0) ((reads left).symm.trans
    ((congrArg _ digits).trans (reads right)))
  simpa only [Nat.ofDigitChars_ten_toDigits] using value

/-- Nothing is known of a connection that does not exist yet. -/
theorem unknown (sound : Sound none running server) :
    (running ++ server.pendingFunctors).count (.connectDestroyed server.objects.length) = 0 ∧
      seenOf server.objects.length server.seen = [] := by
  constructor
  · refine List.count_eq_zero.mpr fun member => ?_
    exact absurd (sound.queued _ member) (by simp [about])
  · refine List.filter_eq_nil_iff.mpr fun label member same => ?_
    have known := sound.known label member
    rw [of_decide_eq_true same] at known
    exact Nat.lt_irrefl _ known

/-- The descriptor of a new connection may be an old one's, but of no connection
that the poller still holds. -/
def Unused (fd : Nat) (server : Server) : Prop :=
  ∀ conn ∈ server.objects, conn.channel.fd = fd → conn.channel.index = .kNew

instance instDecidableUnused (fd : Nat) (server : Server) : Decidable (Unused fd server) :=
  inferInstanceAs (Decidable (∀ conn ∈ server.objects, _))

/-- The server with a new connection that is up. -/
def accepted (fd : Nat) (server : Server) : Server :=
  { server with
    nextConnId := server.nextConnId + 1
    objects := server.objects ++ [
      { name := connName server.namePrefix server.nextConnId
        state := .kConnected
        channel := { fd := fd, reading := true, index := .kAdded, addedToLoop := true } }]
    connections := server.connections.set (connName server.namePrefix server.nextConnId)
      server.objects.length
    channels := server.channels.insert fd server.objects.length
    seen := server.seen ++ [.up server.objects.length] }

theorem unused_unregistered (sound : Sound none running server) {fd : Nat}
    (unused : Unused fd server) : server.channels.find? fd = none := by
  cases found : server.channels.find? fd with
  | none => rfl
  | some other =>
      obtain ⟨conn, held, same⟩ := sound.registered fd other found
      obtain ⟨phase, here, -⟩ := (sound.conns other conn held).phase
      have fresh := unused conn (List.mem_of_getElem? held) same
      have registered :
          (viewOf other conn server (running ++ server.pendingFunctors)).registered := by
        simpa only [viewOf, same] using found
      have index := here.index
      rw [fresh] at index
      cases phase with
      | opened | closing | removed => cases index
      | destroyed => exact absurd rfl (here.registered.mp registered)

theorem accepted_sound (sound : Sound none running server) {fd : Nat}
    (unused : Unused fd server) : Sound none running (accepted fd server) := by
  have free := unused_unregistered sound unused
  obtain ⟨undestroyed, unseen⟩ := unknown sound
  have numbered := sound.numbered
  have before (other : Nat) (conn : TcpConnection) (held : server.objects[other]? = some conn) :
      (accepted fd server).objects[other]? = some conn := by
    rw [accepted, List.getElem?_append_left (List.getElem?_eq_some_iff.mp held).1, held]
  have last : (accepted fd server).objects[server.objects.length]? = some
      { name := connName server.namePrefix server.nextConnId
        state := .kConnected
        channel := { fd := fd, reading := true, index := .kAdded, addedToLoop := true } } := by
    simp [accepted]
  have story : seenOf server.objects.length (accepted fd server).seen =
      [.up server.objects.length] := by
    simp only [accepted, seenOf_append, unseen, List.nil_append]
    exact seenOf_own _ _ (by simp [subject])
  have inside (other : Nat) (conn : TcpConnection)
      (held : (accepted fd server).objects[other]? = some conn)
      (old : other ≠ server.objects.length) : server.objects[other]? = some conn := by
    have bound := (List.getElem?_eq_some_iff.mp held).1
    simp only [accepted, List.length_append, List.length_singleton] at bound
    rwa [accepted, List.getElem?_append_left (by omega)] at held
  refine ⟨?_, ?_, ?_, ?_, ?_, ?_⟩
  · intro other conn held
    by_cases fresh : other = server.objects.length
    · subst fresh
      obtain rfl := Option.some.inj (last.symm.trans held)
      refine ⟨by simp [accepted, numbered], ⟨.opened, ⟨by simp, by simp, by simp, by simp, rfl, ?_,
        ?_, ?_, [], ?_⟩, by simp⟩, ?_⟩
      · simp [viewOf, accepted, OrderedMap.find?_insert, free]
      · simp [viewOf, accepted, OrderedMap.find?_set]
      · simpa [viewOf, accepted] using undestroyed
      · simp only [viewOf, story, Phase.last]
        rfl
      · rw [story]
        refine ⟨?_, ?_, Or.inl ?_⟩ <;> simp [sentPart, wrotePart]
    · obtain ⟨name, ⟨phase, here, marks⟩, flow⟩ :=
        sound.conns other conn (inside other conn held fresh)
      have unrelated : seenOf other (accepted fd server).seen = seenOf other server.seen := by
        rw [accepted, seenOf_append, seenOf_other server.objects.length other
          [.up server.objects.length] fresh (by simp [subject]), List.append_nil]
      have apart : conn.name ≠ connName server.namePrefix server.nextConnId := by
        intro same
        have number := connName_inj server.namePrefix (name.symm.trans same)
        omega
      refine ⟨name, ⟨phase, ⟨here.settled, here.state, here.reading, here.writing, here.index,
        ?_, ?_, here.waiting, ?_⟩, marks⟩, ?_⟩
      · refine Iff.trans ?_ here.registered
        simp only [viewOf, accepted, OrderedMap.find?_insert, free, Option.getD_none]
        split_ifs with same
        · simp [same, free, Ne.symm fresh]
        · rfl
      · refine Iff.trans ?_ here.named
        simp only [viewOf, accepted, OrderedMap.find?_set, if_neg apart]
      · obtain ⟨reads, life⟩ := here.life
        exact ⟨reads, by simpa only [viewOf, unrelated] using life⟩
      · rw [unrelated]
        exact flow
  · simp [accepted, numbered]
  · intro name other listed
    simp only [accepted, OrderedMap.find?_set] at listed
    split_ifs at listed with same
    · obtain rfl := Option.some.inj listed
      exact ⟨_, last, same.symm⟩
    · obtain ⟨conn, held, named⟩ := sound.named name other listed
      exact ⟨conn, before other conn held, named⟩
  · intro key other listed
    simp only [accepted, OrderedMap.find?_insert, free, Option.getD_none] at listed
    split_ifs at listed with same
    · obtain rfl := Option.some.inj listed
      exact ⟨_, last, same.symm⟩
    · obtain ⟨conn, held, registered⟩ := sound.registered key other listed
      exact ⟨conn, before other conn held, registered⟩
  · intro functor member
    have inside := sound.queued functor member
    simp only [accepted, List.length_append, List.length_singleton]
    omega
  · intro label member
    simp only [accepted, List.length_append, List.length_singleton] at member ⊢
    rcases List.mem_append.mp member with old | new
    · have inside := sound.known label old
      omega
    · rw [List.mem_singleton.mp new, subject]
      omega

theorem newConnection_sound (sound : Sound none running server) {fd : Nat}
    (unused : Unused fd server) :
    ∃ after, newConnection app fd server = some after ∧ Sound none running after ∧
      Carried (fun _ => False) server after ∧
      after.objects.length = server.objects.length + 1 ∧
      ∀ conn, after.objects[server.objects.length]? = some conn → conn.channel.fd = fd := by
  have free := unused_unregistered sound unused
  obtain ⟨after, ran, kept, carried, size⟩ := calls_sound (fun _ => False)
    (app (accepted fd server).seen) (accepted_sound sound unused)
  have base : Carried (fun _ => False) server (accepted fd server) := by
    refine ⟨by simp [accepted], fun id conn held =>
      ⟨conn, ?_, rfl, fun _ => rfl, fun _ live => live⟩⟩
    rw [accepted, List.getElem?_append_left (List.getElem?_eq_some_iff.mp held).1, held]
  refine ⟨after, ?_, kept, base.trans carried, by simpa [accepted] using size, ?_⟩
  · simp only [newConnection, updateChannel, free, ↓reduceIte, Option.bind_eq_bind,
      Option.bind_some, callback]
    simpa [Server.log, Server.store, accepted] using ran
  · intro conn held
    obtain ⟨next, heldNext, same, -, -⟩ := carried.2 server.objects.length _
      (show (accepted fd server).objects[server.objects.length]? = some _ by simp [accepted]; rfl)
    rw [heldNext, Option.some.injEq] at held
    rw [← held, same]

/-- A functor that does not destroy a connection is taken off the queue. -/
theorem sound_drop {functor : Functor} (sound : Sound none (functor :: running) server)
    (harmless : ∀ id, functor ≠ .connectDestroyed id) : Sound none running server := by
  refine ⟨?_, sound.numbered, sound.named, sound.registered, ?_, sound.known⟩
  · intro other conn held
    obtain ⟨name, ⟨phase, here, marks⟩, flow⟩ := sound.conns other conn held
    refine ⟨name, ⟨phase, ⟨here.settled, here.state, here.reading, here.writing, here.index,
      here.registered, here.named, ?_, here.life⟩, marks⟩, flow⟩
    have waiting := here.waiting
    simp only [viewOf, List.cons_append] at waiting
    rwa [List.count_cons_of_ne (harmless other)] at waiting
  · intro functor' member
    exact sound.queued functor' (List.mem_cons_of_mem _ member)

theorem connectDestroyed_sound (sound : Sound none (.connectDestroyed id :: running) server) :
    ∃ after, runFunctor app server (.connectDestroyed id) = some after ∧
      Sound none running after := by
  have inside : id < server.objects.length := sound.queued (.connectDestroyed id) (by simp)
  obtain ⟨conn, held⟩ : ∃ conn, server.objects[id]? = some conn :=
    ⟨_, List.getElem?_eq_getElem inside⟩
  obtain ⟨phase, here, -⟩ := (sound.conns id conn held).phase
  have waiting := here.waiting
  simp only [viewOf, List.cons_append, List.count_cons_self] at waiting
  obtain rfl : phase = .removed := by
    by_contra other
    rw [if_neg other] at waiting
    omega
  rw [if_pos rfl] at waiting
  have gone : conn.state = .kDisconnected := here.state.mpr (by simp)
  have registered : server.channels.find? conn.channel.fd = some id :=
    here.registered.mpr (by simp)
  have idle : conn.channel.isNoneEvent = true := by
    have reading : conn.channel.reading = false := by
      simpa using mt here.reading.mp
    simp [Channel.isNoneEvent, here.writing (by simp), reading]
  let removed : TcpConnection :=
    { conn with channel := { conn.channel with addedToLoop := false, index := .kNew } }
  have objects (other : Nat) : (server.objects.set id removed)[other]? =
      if other = id then some removed else server.objects[other]? :=
    edit_objects id other removed [] [] server inside
  refine ⟨{ server with
      channels := server.channels.erase conn.channel.fd
      objects := server.objects.set id removed }, ?_, ⟨?_, ?_, ?_, ?_, ?_, ?_⟩⟩
  · have index : conn.channel.index ≠ .kNew := by simp [here.index, Phase.index]
    have running' : conn.state ≠ .kConnected := by simp [gone]
    simp only [runFunctor, onObject, held, connectDestroyed, if_neg running', removeChannel]
    rw [if_pos ⟨idle, registered, index⟩]
    rfl
  · intro other conn' held'
    rw [objects] at held'
    by_cases own : other = id
    · subst own
      rw [if_pos rfl, Option.some.injEq] at held'
      subst held'
      obtain ⟨name, -, flow⟩ := sound.conns other conn held
      refine ⟨name, ⟨.destroyed, ⟨here.settled, by simpa using here.state,
        by simpa using here.reading, fun _ => here.writing (by simp), rfl, ?_,
        iff_of_false (mt here.named.mp (by simp)) (by simp), ?_, here.life⟩, by simp⟩,
        ⟨flow.kept, flow.writing, flow.last⟩⟩
      · simp [viewOf, removed, OrderedMap.find?_erase]
      · simpa [viewOf] using waiting
    · rw [if_neg own] at held'
      obtain ⟨name, ⟨phase', here', marks'⟩, flow⟩ := sound.conns other conn' held'
      refine ⟨name, ⟨phase', ⟨here'.settled, here'.state, here'.reading, here'.writing,
        here'.index, ?_, here'.named, ?_, here'.life⟩, marks'⟩, flow⟩
      · -- the erased descriptor was another one's
        refine Iff.trans ?_ here'.registered
        simp only [viewOf, OrderedMap.find?_erase]
        split_ifs with same
        · simp [same, registered, Ne.symm own]
        · rfl
      · have waiting' := here'.waiting
        simp only [viewOf, List.cons_append] at waiting'
        rwa [List.count_cons_of_ne (by simpa using Ne.symm own)] at waiting'
  · simpa using sound.numbered
  · intro name other listed
    obtain ⟨conn', held', same⟩ := sound.named name other listed
    by_cases own : other = id
    · subst own
      obtain rfl := Option.some.inj (held.symm.trans held')
      exact ⟨removed, by rw [objects, if_pos rfl], same⟩
    · exact ⟨conn', by rw [objects, if_neg own, held'], same⟩
  · intro key other listed
    rw [OrderedMap.find?_erase] at listed
    split_ifs at listed
    obtain ⟨conn', held', same⟩ := sound.registered key other listed
    by_cases own : other = id
    · subst own
      obtain rfl := Option.some.inj (held.symm.trans held')
      exact ⟨removed, by rw [objects, if_pos rfl], same⟩
    · exact ⟨conn', by rw [objects, if_neg own, held'], same⟩
  · intro functor member
    simpa using sound.queued functor (List.mem_cons_of_mem _ member)
  · intro label member
    simpa using sound.known label member

/-- Any functor of the queue runs, in whatever state it finds its connection. -/
theorem runFunctor_sound {functor : Functor} (sound : Sound none (functor :: running) server) :
    ∃ after, runFunctor app server functor = some after ∧ Sound none running after := by
  have inside : about functor < server.objects.length := sound.queued functor (by simp)
  obtain ⟨conn, held⟩ : ∃ conn, server.objects[about functor]? = some conn :=
    ⟨_, List.getElem?_eq_getElem inside⟩
  have unchanged := edit_self (about functor) conn server held
  cases functor with
  | connectDestroyed id => exact connectDestroyed_sound app sound
  | forceCloseInLoop id =>
      have dropped := sound_drop sound (by simp)
      simp only [about] at held
      simp only [runFunctor, onObject, held]
      split_ifs with state
      · have live : conn.state ≠ .kDisconnected := by
          rcases state with state | state <;> simp [state]
        obtain ⟨after, ran, kept, -⟩ := handleClose_sound app dropped held live
        exact ⟨after, ran, kept⟩
      · exact ⟨server, rfl, dropped⟩
  | writeComplete id =>
      have noted : Sound none running
          (edit (about (.writeComplete id)) conn [] ([] ++ [.writeComplete id]) server) :=
        noted_sound (sound_drop sound (by simp)) held _ rfl rfl rfl
      obtain ⟨after, ran, kept, -⟩ := callback_kept app (fun _ => True) server noted
      rw [unchanged] at ran
      exact ⟨after, ran, kept⟩
  | highWaterMark id size =>
      have noted : Sound none running
          (edit (about (.highWaterMark id size)) conn [] ([] ++ [.highWaterMark id size])
            server) :=
        noted_sound (sound_drop sound (by simp)) held _ rfl rfl rfl
      obtain ⟨after, ran, kept, -⟩ := callback_kept app (fun _ => True) server noted
      rw [unchanged] at ran
      exact ⟨after, ran, kept⟩

theorem functors_sound (functors : List Functor) {server : Server}
    (sound : Sound none functors server) :
    ∃ after, functors.foldlM (runFunctor app) server = some after ∧ Sound none [] after := by
  induction functors generalizing server with
  | nil => exact ⟨server, rfl, sound⟩
  | cons functor rest ih =>
      obtain ⟨next, ran, kept⟩ := runFunctor_sound app sound
      obtain ⟨after, went, still⟩ := ih kept
      exact ⟨after, by rw [List.foldlM_cons, ran]; exact went, still⟩

theorem doPendingFunctors_sound (sound : Sound none [] server) :
    ∃ after, doPendingFunctors app server = some after ∧ Sound none [] after := by
  refine functors_sound app server.pendingFunctors ⟨?_, sound.numbered, sound.named,
    sound.registered, ?_, sound.known⟩
  · intro other conn held
    obtain ⟨name, phase, flow⟩ := sound.conns other conn held
    rw [List.append_nil]
    exact ⟨name, phase, flow⟩
  · intro functor member
    exact sound.queued functor (by simpa using member)

end Handlers

/-! Runs of the loop. -/
section Runs

variable (app : App)

def eventId : Active → Option Nat
  | .event id _ _ _ => some id
  | .accept _ => none

def acceptFd : Active → Option Nat
  | .accept fd => some fd
  | .event _ _ _ _ => none

/-- What the poller reports only for channels it holds, and `accept` only for
descriptors that are free. -/
def Ready (server : Server) : Active → Prop
  | .event id revents _ _ =>
      Plain revents ∧ (server.objects[id]?).map (·.channel.index) = some .kAdded
  | .accept fd => Unused fd server

instance instDecidableReady (server : Server) : ∀ active, Decidable (Ready server active)
  | .event _ _ _ _ => inferInstanceAs (Decidable (_ ∧ _))
  | .accept fd => instDecidableUnused fd server

def Polled (server : Server) (active : List Active) : Prop :=
  (active.filterMap eventId).Nodup ∧ (active.filterMap acceptFd).Nodup ∧
    ∀ each ∈ active, Ready server each

instance instDecidablePolled (server : Server) (active : List Active) :
    Decidable (Polled server active) :=
  inferInstanceAs (Decidable (_ ∧ _ ∧ _))

/-- Every turn of the run is polled in the state it starts from. -/
def Driven : Server → List (List Active) → Prop
  | _, [] => True
  | server, active :: rest => Polled server active ∧
      match turn app server active with
      | some next => Driven next rest
      | none => True

instance instDecidableDriven : ∀ server turns, Decidable (Driven app server turns)
  | _, [] => .isTrue trivial
  | server, active :: rest =>
      match ran : turn app server active with
      | some next =>
          have := instDecidableDriven next rest
          decidable_of_iff (Polled server active ∧ Driven app next rest)
            (by simp only [Driven, ran])
      | none => decidable_of_iff (Polled server active) (by simp [Driven, ran])

def started (namePrefix : Bytes) (hasWriteComplete hasHighWaterMark : Bool) : Server :=
  { namePrefix, hasWriteComplete, hasHighWaterMark }

variable {server : Server}

/-- A connection that the poller holds is open. -/
theorem added_live {running : List Functor} {id : Nat} (sound : Sound none running server)
    (added : (server.objects[id]?).map (·.channel.index) = some .kAdded) :
    ∃ conn, server.objects[id]? = some conn ∧ conn.state ≠ .kDisconnected := by
  obtain ⟨conn, held, index⟩ := Option.map_eq_some_iff.mp added
  refine ⟨conn, held, fun gone => ?_⟩
  obtain ⟨phase, here, marks⟩ := (sound.conns id conn held).phase
  have shut := here.index.symm.trans index
  cases phase with
  | opened => exact absurd rfl (here.state.mp gone)
  | closing => cases marks.mp rfl
  | removed | destroyed => cases shut

theorem live_added {running : List Functor} {id : Nat} {conn : TcpConnection}
    (sound : Sound none running server) (held : server.objects[id]? = some conn)
    (live : conn.state ≠ .kDisconnected) :
    (server.objects[id]?).map (·.channel.index) = some .kAdded := by
  rw [held, Option.map_some, (opened_facts sound held live).1]

/-- A descriptor stays unused while old connections are handled. -/
theorem unused_carried {closable : Nat → Prop} {running : List Functor} {fd : Nat}
    {after : Server} (sound : Sound none running server)
    (carried : Carried closable server after) (unused : Unused fd server)
    (fresh : ∀ id conn, server.objects.length ≤ id → after.objects[id]? = some conn →
      conn.channel.fd ≠ fd) : Unused fd after := by
  intro conn member same
  obtain ⟨id, held⟩ := List.getElem?_of_mem member
  by_cases old : id < server.objects.length
  · have heldBefore := List.getElem?_eq_getElem old
    obtain ⟨next, heldNext, fdSame, still, -⟩ := carried.2 id _ heldBefore
    obtain rfl := Option.some.inj (held.symm.trans heldNext)
    have idle := unused _ (List.mem_of_getElem? heldBefore) (fdSame.symm.trans same)
    -- the poller let go of it, so it is disconnected and stayed as it was
    have gone : server.objects[id].state = .kDisconnected := by
      by_contra live
      have added := (opened_facts sound heldBefore live).1
      rw [added] at idle
      cases idle
    rw [still gone]
    exact idle
  · exact absurd same (fresh id conn (by omega) held)

theorem active_sound (active : List Active) {server : Server} (sound : Sound none [] server)
    (polled : Polled server active) :
    ∃ after, active.foldlM (handleActive app) server = some after ∧ Sound none [] after := by
  induction active generalizing server with
  | nil => exact ⟨server, rfl, sound⟩
  | cons first rest ih =>
      obtain ⟨once, fds, ready⟩ := polled
      have readyRest : ∀ each ∈ rest, Ready server each :=
        fun each member => ready each (List.mem_cons_of_mem _ member)
      cases first with
      | event id revents read write =>
          obtain ⟨plain, added⟩ := ready (.event id revents read write) (by simp)
          obtain ⟨conn, held, live⟩ := added_live sound added
          obtain ⟨next, ran, kept, carried, size⟩ :=
            handleEvent_sound app sound held live revents read write plain
          simp only [List.filterMap_cons, eventId, acceptFd] at once fds
          obtain ⟨apart, onceRest⟩ := List.nodup_cons.mp once
          have polledRest : Polled next rest := by
            refine ⟨onceRest, fds, fun each member => ?_⟩
            cases each with
            | event other revents' read' write' =>
                obtain ⟨plain', added'⟩ := readyRest _ member
                have differ : other ≠ id := by
                  rintro rfl
                  exact apart (List.mem_filterMap.mpr ⟨_, member, rfl⟩)
                obtain ⟨conn', held', live'⟩ := added_live sound added'
                obtain ⟨after', heldAfter, -, -, stays⟩ := carried.2 other conn' held'
                exact ⟨plain', live_added kept heldAfter (stays differ live')⟩
            | accept fd =>
                refine unused_carried sound carried (readyRest _ member) ?_
                intro other conn' old held'
                have bound := (List.getElem?_eq_some_iff.mp held').1
                omega
          obtain ⟨after, went, still⟩ := ih kept polledRest
          exact ⟨after, by rw [List.foldlM_cons, handleActive, ran]; exact went, still⟩
      | accept fd =>
          have unused : Unused fd server := ready (.accept fd) (by simp)
          obtain ⟨next, ran, kept, carried, size, last⟩ := newConnection_sound app sound unused
          simp only [List.filterMap_cons, eventId, acceptFd] at once fds
          obtain ⟨apart, fdsRest⟩ := List.nodup_cons.mp fds
          have polledRest : Polled next rest := by
            refine ⟨once, fdsRest, fun each member => ?_⟩
            cases each with
            | event other revents' read' write' =>
                obtain ⟨plain', added'⟩ := readyRest _ member
                obtain ⟨conn', held', live'⟩ := added_live sound added'
                obtain ⟨after', heldAfter, -, -, stays⟩ := carried.2 other conn' held'
                exact ⟨plain', live_added kept heldAfter (stays (by simp) live')⟩
            | accept other =>
                refine unused_carried sound carried (readyRest _ member) ?_
                intro index conn' old held' same
                have bound := (List.getElem?_eq_some_iff.mp held').1
                obtain rfl : index = server.objects.length := by omega
                rw [last conn' held'] at same
                subst same
                exact apart (List.mem_filterMap.mpr ⟨_, member, rfl⟩)
          obtain ⟨after, went, still⟩ := ih kept polledRest
          exact ⟨after, by rw [List.foldlM_cons, handleActive, ran]; exact went, still⟩

theorem turn_sound {active : List Active} (sound : Sound none [] server)
    (polled : Polled server active) :
    ∃ after, turn app server active = some after ∧ Sound none [] after := by
  obtain ⟨handled, ran, kept⟩ := active_sound app active sound polled
  obtain ⟨after, went, still⟩ := doPendingFunctors_sound app kept
  exact ⟨after, by simp only [turn, ran, Option.bind_eq_bind, Option.bind_some, went], still⟩

theorem loop_sound (turns : List (List Active)) {server : Server} (sound : Sound none [] server)
    (driven : Driven app server turns) :
    ∃ after, loop app server turns = some after ∧ Sound none [] after := by
  induction turns generalizing server with
  | nil => exact ⟨server, rfl, sound⟩
  | cons active rest ih =>
      obtain ⟨polled, later⟩ := driven
      obtain ⟨next, ran, kept⟩ := turn_sound app sound polled
      simp only [ran] at later
      obtain ⟨after, went, still⟩ := ih kept later
      exact ⟨after, by rw [loop, List.foldlM_cons, ran]; exact went, still⟩

theorem started_sound (namePrefix : Bytes) (hasWriteComplete hasHighWaterMark : Bool) :
    Sound none [] (started namePrefix hasWriteComplete hasHighWaterMark) := by
  refine ⟨?_, rfl, ?_, ?_, ?_, ?_⟩ <;> simp [started, OrderedMap.find?, OrderedMap.empty]

/-- An echo that closes a connection on an empty line: accepted, answered in two
parts and closed by the peer while another connection is accepted. -/
def echo : App := fun seen =>
  match seen.getLast? with
  | some (.message id [10]) => [.forceClose id]
  | some (.message id data) => [.send id data (.wrote 1), .shutdown id]
  | _ => []

def echoTurns : List (List Active) :=
  [[.accept 7], [.event 0 { readIn := true } (some [1, 2, 3]) (.wrote 0), .accept 8],
    [.event 1 { readIn := true } (some [10]) (.wrote 0),
      .event 0 { out := true } none (.wrote 9)],
    [.event 0 { hup := true } none (.wrote 0)], [.accept 7]]

end Runs

end EdoyumIM.ConnectionLifecycle
