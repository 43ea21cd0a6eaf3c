import EdoyumIM.TcpConnections

/-!
The phases of a connection: open, closing while its last callback runs, removed
while its destruction is pending, destroyed. Each phase fixes what the poller,
the map of the server and the pending functors know of it, and its output buffer
holds what was sent and not written yet. The calls of the callbacks keep this.
-/

namespace EdoyumIM.ConnectionPhases

open MachineWords OrderedStore NetBuffer TcpConnections

def about : Functor → Nat
  | .forceCloseInLoop id | .connectDestroyed id | .writeComplete id | .highWaterMark id _ => id

def subject : Seen → Nat
  | .up id | .down id | .message id _ | .writeComplete id | .highWaterMark id _ | .sent id _
  | .dropped id _ | .wrote id _ | .shutdownWrite id => id

/-- What was seen of one connection. -/
def seenOf (id : Nat) (seen : List Seen) : List Seen :=
  seen.filter fun label => decide (subject label = id)

/-- The callbacks about the connection itself and its messages. -/
def isLife : Seen → Bool
  | .up _ | .down _ | .message _ _ => true
  | _ => false

/-- What goes to the peer: messages taken, bytes written, the end of writing. -/
def isFlow : Seen → Bool
  | .sent _ _ | .wrote _ _ | .shutdownWrite _ => true
  | _ => false

def lifeOf (id : Nat) (seen : List Seen) : List Seen := (seenOf id seen).filter isLife

def sentPart : Seen → Bytes
  | .sent _ data => data
  | _ => []

def wrotePart : Seen → Bytes
  | .wrote _ data => data
  | _ => []

def sentOf (id : Nat) (seen : List Seen) : Bytes := (seenOf id seen).flatMap sentPart

def wroteOf (id : Nat) (seen : List Seen) : Bytes := (seenOf id seen).flatMap wrotePart

/-! Seen entries of one connection. -/
section Entries

theorem seenOf_append (id : Nat) (seen labels : List Seen) :
    seenOf id (seen ++ labels) = seenOf id seen ++ seenOf id labels := List.filter_append _ _

theorem seenOf_own (id : Nat) (labels : List Seen)
    (own : ∀ label ∈ labels, subject label = id) :
    seenOf id labels = labels :=
  List.filter_eq_self.mpr fun label member => decide_eq_true (own label member)

theorem seenOf_other (id other : Nat) (labels : List Seen) (differ : other ≠ id)
    (own : ∀ label ∈ labels, subject label = id) : seenOf other labels = [] := by
  refine List.filter_eq_nil_iff.mpr fun label member same => differ ?_
  rw [← of_decide_eq_true same, own label member]

end Entries

/-! The phases of a connection and what each fixes. -/
section Phases

inductive Phase where
  | opened | closing | removed | destroyed
  deriving DecidableEq

/-- What the server around it knows of a connection: whether the poller and the
map of the server hold it, its pending destructions, and what was seen of it. -/
structure View where
  registered : Prop
  named : Prop
  waiting : Nat
  log : List Seen

def Phase.index : Phase → Index
  | .opened => .kAdded
  | .closing | .removed => .kDeleted
  | .destroyed => .kNew

def Phase.last (id : Nat) : Phase → List Seen
  | .opened => []
  | _ => [.down id]

structure InPhase (phase : Phase) (id : Nat) (conn : TcpConnection) (view : View) : Prop where
  settled : conn.state ≠ .kConnecting
  state : conn.state = .kDisconnected ↔ phase ≠ .opened
  reading : conn.channel.reading = true ↔ phase = .opened
  writing : phase ≠ .opened → conn.channel.writing = false
  index : conn.channel.index = phase.index
  registered : view.registered ↔ phase ≠ .destroyed
  named : view.named ↔ phase = .opened ∨ phase = .closing
  waiting : view.waiting = if phase = .removed then 1 else 0
  life : ∃ reads : List Bytes,
    view.log.filter isLife = .up id :: reads.map (.message id) ++ phase.last id

/-- The output side: nothing is lost, nothing is written twice, and the write
end is shut only behind the last byte. -/
structure Flow (id : Nat) (conn : TcpConnection) (log : List Seen) : Prop where
  kept : log.flatMap sentPart = log.flatMap wrotePart ++ conn.outputBuffer.readable
  writing : conn.state ≠ .kDisconnected →
    (conn.channel.writing = true ↔ conn.outputBuffer.readable ≠ [])
  last : .shutdownWrite id ∉ log ∨
    (conn.state ≠ .kConnected ∧ conn.outputBuffer.readable = [] ∧
      ∃ before, log.filter isFlow = before ++ [.shutdownWrite id] ∧
        .shutdownWrite id ∉ before)

def viewOf (id : Nat) (conn : TcpConnection) (server : Server) (queue : List Functor) : View where
  registered := server.channels.find? conn.channel.fd = some id
  named := server.connections.find? conn.name = some id
  waiting := queue.count (.connectDestroyed id)
  log := seenOf id server.seen

structure ConnOk (closing : Option Nat) (queue : List Functor) (server : Server) (id : Nat)
    (conn : TcpConnection) : Prop where
  name : conn.name = connName server.namePrefix (id + 1)
  phase : ∃ phase, InPhase phase id conn (viewOf id conn server queue) ∧
    (phase = .closing ↔ closing = some id)
  flow : Flow id conn (seenOf id server.seen)

/-- Between two handlers. `running` are the functors still to be run in this
turn, `closing` is the connection whose last callback is running. -/
structure Sound (closing : Option Nat) (running : List Functor) (server : Server) : Prop where
  conns : ∀ id conn, server.objects[id]? = some conn →
    ConnOk closing (running ++ server.pendingFunctors) server id conn
  numbered : server.nextConnId = server.objects.length + 1
  named : ∀ name id, server.connections.find? name = some id →
    ∃ conn, server.objects[id]? = some conn ∧ conn.name = name
  registered : ∀ fd id, server.channels.find? fd = some id →
    ∃ conn, server.objects[id]? = some conn ∧ conn.channel.fd = fd
  queued : ∀ functor ∈ running ++ server.pendingFunctors,
    about functor < server.objects.length
  known : ∀ label ∈ server.seen, subject label < server.objects.length

end Phases

/-! Changes to one connection. -/
section Edits

/-- A change to one connection, with what it queues and what is seen of it. -/
def edit (id : Nat) (conn : TcpConnection) (functors : List Functor) (labels : List Seen)
    (server : Server) : Server :=
  { server with
    objects := server.objects.set id conn
    pendingFunctors := server.pendingFunctors ++ functors
    seen := server.seen ++ labels }

theorem edit_log (id : Nat) (conn : TcpConnection) (functors : List Functor) (labels : List Seen)
    (label : Seen) (server : Server) :
    (edit id conn functors labels server).log label =
      edit id conn functors (labels ++ [label]) server := by
  simp [edit, Server.log]

theorem edit_queueInLoop (id : Nat) (conn : TcpConnection) (functors : List Functor)
    (labels : List Seen) (functor : Functor) (server : Server) :
    (edit id conn functors labels server).queueInLoop functor =
      edit id conn (functors ++ [functor]) labels server := by
  simp [edit, Server.queueInLoop]

theorem edit_store (id : Nat) (conn next : TcpConnection) (functors : List Functor)
    (labels : List Seen) (server : Server) :
    (edit id conn functors labels server).store id next =
      edit id next functors labels server := by
  simp [edit, Server.store]

theorem edit_self (id : Nat) (conn : TcpConnection) (server : Server)
    (held : server.objects[id]? = some conn) : edit id conn [] [] server = server := by
  obtain ⟨inside, rfl⟩ := List.getElem?_eq_some_iff.mp held
  simp [edit]

theorem edit_objects (id other : Nat) (conn : TcpConnection) (functors : List Functor)
    (labels : List Seen) (server : Server) (inside : id < server.objects.length) :
    (edit id conn functors labels server).objects[other]? =
      if other = id then some conn else server.objects[other]? := by
  by_cases same : other = id
  · rw [same, if_pos rfl]
    exact List.getElem?_set_self inside
  · rw [if_neg same]
    exact List.getElem?_set_ne (Ne.symm same)

theorem count_other (id other : Nat) (functors : List Functor) (differ : other ≠ id)
    (own : ∀ functor ∈ functors, about functor = id) :
    functors.count (.connectDestroyed other) = 0 :=
  List.count_eq_zero.mpr fun member => differ (own _ member)

theorem viewOf_edit_own (id : Nat) (conn next : TcpConnection) (running functors : List Functor)
    (labels : List Seen) (server : Server) (name : next.name = conn.name)
    (fd : next.channel.fd = conn.channel.fd) (own : ∀ label ∈ labels, subject label = id) :
    viewOf id next (edit id next functors labels server)
        (running ++ (edit id next functors labels server).pendingFunctors) =
      ⟨server.channels.find? conn.channel.fd = some id,
        server.connections.find? conn.name = some id,
        (running ++ server.pendingFunctors ++ functors).count (.connectDestroyed id),
        seenOf id server.seen ++ labels⟩ := by
  simp only [viewOf, edit, name, fd, seenOf_append, seenOf_own id labels own, List.append_assoc]

theorem viewOf_edit_other (id other : Nat) (conn next : TcpConnection)
    (running functors : List Functor) (labels : List Seen) (server : Server)
    (differ : other ≠ id) (functorsOwn : ∀ functor ∈ functors, about functor = id)
    (labelsOwn : ∀ label ∈ labels, subject label = id) :
    viewOf other conn (edit id next functors labels server)
        (running ++ (edit id next functors labels server).pendingFunctors) =
      viewOf other conn server (running ++ server.pendingFunctors) := by
  simp only [viewOf, edit, seenOf_append, seenOf_other id other labels differ labelsOwn,
    List.append_nil, List.count_append, count_other id other functors differ functorsOwn,
    Nat.add_zero]

/-- What is written down about one connection leaves what holds of the others. -/
theorem sound_edit {closing : Option Nat} {running : List Functor} {server : Server} {id : Nat}
    {conn next : TcpConnection} {functors : List Functor} {labels : List Seen}
    (after : Option Nat) (sound : Sound closing running server)
    (held : server.objects[id]? = some conn)
    (name : next.name = conn.name) (fd : next.channel.fd = conn.channel.fd)
    (functorsOwn : ∀ functor ∈ functors, about functor = id)
    (labelsOwn : ∀ label ∈ labels, subject label = id)
    (elsewhere : ∀ other, other ≠ id → (after = some other ↔ closing = some other))
    (phase : ∃ phase, InPhase phase id next
      ⟨server.channels.find? conn.channel.fd = some id,
        server.connections.find? conn.name = some id,
        (running ++ server.pendingFunctors ++ functors).count (.connectDestroyed id),
        seenOf id server.seen ++ labels⟩ ∧ (phase = .closing ↔ after = some id))
    (flow : Flow id next (seenOf id server.seen ++ labels)) :
    Sound after running (edit id next functors labels server) := by
  have inside : id < server.objects.length := (List.getElem?_eq_some_iff.mp held).1
  have objects (other : Nat) := edit_objects id other next functors labels server inside
  -- an object found before is found again, with its name and descriptor
  have found (key : TcpConnection → Prop) (other : Nat)
      (before : ∃ conn', server.objects[other]? = some conn' ∧ key conn')
      (same : key conn → key next) :
      ∃ conn', (edit id next functors labels server).objects[other]? = some conn' ∧
        key conn' := by
    obtain ⟨conn', held', holds⟩ := before
    by_cases own : other = id
    · subst own
      rw [held, Option.some.injEq] at held'
      exact ⟨next, by rw [objects, if_pos rfl], same (held' ▸ holds)⟩
    · exact ⟨conn', by rw [objects, if_neg own, held'], holds⟩
  refine ⟨?_, ?_, ?_, ?_, ?_, ?_⟩
  · intro other conn' held'
    rw [objects] at held'
    by_cases own : other = id
    · subst own
      rw [if_pos rfl, Option.some.injEq] at held'
      subst held'
      refine ⟨?_, ?_, ?_⟩
      · rw [name]
        exact (sound.conns other conn held).name
      · rw [viewOf_edit_own other conn next running functors labels server name fd labelsOwn]
        exact phase
      · simpa only [edit, seenOf_append, seenOf_own other labels labelsOwn] using flow
    · rw [if_neg own] at held'
      obtain ⟨named, ⟨stage, inStage, marks⟩, flows⟩ := sound.conns other conn' held'
      refine ⟨named, ⟨stage, ?_, marks.trans (elsewhere other own).symm⟩, ?_⟩
      · rwa [viewOf_edit_other id other conn' next running functors labels server own
          functorsOwn labelsOwn]
      · simpa only [edit, seenOf_append, seenOf_other id other labels own labelsOwn,
          List.append_nil] using flows
  · simpa only [edit, List.length_set] using sound.numbered
  · intro key other listed
    exact found (fun conn' => conn'.name = key) other (sound.named key other listed)
      (fun same => name.trans same)
  · intro key other listed
    exact found (fun conn' => conn'.channel.fd = key) other (sound.registered key other listed)
      (fun same => fd.trans same)
  · intro functor member
    simp only [edit, List.length_set, ← List.append_assoc] at member ⊢
    rcases List.mem_append.mp member with before | new
    · exact sound.queued functor before
    · rw [functorsOwn functor new]
      exact inside
  · intro label member
    simp only [edit, List.length_set] at member ⊢
    rcases List.mem_append.mp member with before | new
    · exact sound.known label before
    · rw [labelsOwn label new]
      exact inside

end Edits

/-! Changes to an open connection. -/
section Open

structure Continues (conn next : TcpConnection) : Prop where
  name : next.name = conn.name
  fd : next.channel.fd = conn.channel.fd
  reading : next.channel.reading = conn.channel.reading
  index : next.channel.index = conn.channel.index
  state : next.state = .kConnected ∨ next.state = .kDisconnecting

theorem opened_of_state {phase : Phase} {id : Nat} {conn : TcpConnection} {view : View}
    (here : InPhase phase id conn view) (live : conn.state ≠ .kDisconnected) :
    phase = .opened := by
  by_contra other
  exact live (here.state.mpr other)

theorem sound_opened {closing : Option Nat} {running : List Functor} {server : Server} {id : Nat}
    {conn next : TcpConnection} {functors : List Functor} {labels : List Seen}
    (sound : Sound closing running server) (held : server.objects[id]? = some conn)
    (live : conn.state ≠ .kDisconnected) (continues : Continues conn next)
    (functorsOwn : ∀ functor ∈ functors, about functor = id)
    (undestroyed : .connectDestroyed id ∉ functors)
    (labelsOwn : ∀ label ∈ labels, subject label = id)
    (reads : List Bytes) (life : labels.filter isLife = reads.map (.message id))
    (flow : Flow id next (seenOf id server.seen ++ labels)) :
    Sound closing running (edit id next functors labels server) := by
  obtain ⟨phase, here, marks⟩ := (sound.conns id conn held).phase
  obtain rfl := opened_of_state here live
  have open' : next.state ≠ .kDisconnected := by
    rcases continues.state with state | state <;> simp [state]
  obtain ⟨earlier, story⟩ := here.life
  refine sound_edit closing sound held continues.name continues.fd functorsOwn labelsOwn
    (fun _ _ => Iff.rfl) ⟨.opened, ?_, marks⟩ flow
  refine ⟨?_, ?_, ?_, fun other => absurd rfl other, ?_, here.registered, here.named, ?_, ?_⟩
  · rcases continues.state with state | state <;> simp [state]
  · simp [open']
  · rw [continues.reading]
    exact here.reading
  · rw [continues.index]
    exact here.index
  · have waiting := here.waiting
    simp only [viewOf] at waiting
    simp only [List.count_append, List.count_eq_zero.mpr undestroyed] at waiting ⊢
    exact waiting
  · refine ⟨earlier ++ reads, ?_⟩
    simp only [viewOf, Phase.last, List.append_nil] at story
    simp [List.filter_append, story, life, Phase.last]

/-- The bytes a change adds to what is sent, and takes off what is written. -/
theorem flow_edit {id : Nat} {conn next : TcpConnection} {log labels : List Seen}
    (flow : Flow id conn log)
    (balance : conn.outputBuffer.readable ++ labels.flatMap sentPart =
      labels.flatMap wrotePart ++ next.outputBuffer.readable)
    (writing : next.state ≠ .kDisconnected →
      (next.channel.writing = true ↔ next.outputBuffer.readable ≠ []))
    (last : .shutdownWrite id ∉ log ++ labels ∨
      (next.state ≠ .kConnected ∧ next.outputBuffer.readable = [] ∧
        ∃ before, (log ++ labels).filter isFlow = before ++ [.shutdownWrite id] ∧
          .shutdownWrite id ∉ before)) :
    Flow id next (log ++ labels) := by
  refine ⟨?_, writing, last⟩
  rw [List.flatMap_append, List.flatMap_append, flow.kept, List.append_assoc, balance,
    List.append_assoc]

theorem updateChannel_added (id : Nat) (conn : TcpConnection) (server : Server)
    (index : conn.channel.index = .kAdded)
    (registered : server.channels.find? conn.channel.fd = some id) :
    updateChannel id conn server = some (server.store id { conn with
      channel := { conn.channel with
        addedToLoop := true
        index := if conn.channel.isNoneEvent then .kDeleted else .kAdded } }) := by
  simp only [updateChannel, index, registered, ↓reduceIte]
  rfl

/-- What is buffered is appended to the output, and the channel waits for room. -/
theorem buffered_edit (id : Nat) (conn : TcpConnection) (rest : Bytes) (labels : List Seen)
    (server : Server) (index : conn.channel.index = .kAdded)
    (registered : server.channels.find? conn.channel.fd = some id)
    (state : conn.state = .kConnected) :
    ∃ next functors, buffered id conn rest (edit id conn [] labels server) =
        some (edit id next functors labels server) ∧
      Continues conn next ∧ next.channel.writing = true ∧
      next.outputBuffer.readable = conn.outputBuffer.readable ++ rest ∧
      (∀ functor ∈ functors, about functor = id) ∧ .connectDestroyed id ∉ functors := by
  obtain ⟨output, appended, content, -⟩ := conn.outputBuffer.append_exact rest
  -- the functor of the high water mark is queued or not
  obtain ⟨functors, noted, own, kept⟩ : ∃ functors,
      (if (edit id conn [] labels server).hasHighWaterMark &&
          decide (conn.highWaterMark ≤ conn.outputBuffer.readableBytes + rest.length) &&
          decide (conn.outputBuffer.readableBytes < conn.highWaterMark) then
        (edit id conn [] labels server).queueInLoop
          (.highWaterMark id (conn.outputBuffer.readableBytes + rest.length))
      else edit id conn [] labels server) = edit id conn functors labels server ∧
      (∀ functor ∈ functors, about functor = id) ∧ .connectDestroyed id ∉ functors := by
    split_ifs
    · exact ⟨[.highWaterMark id _], edit_queueInLoop id conn [] labels _ server, by simp [about],
        by simp⟩
    · exact ⟨[], rfl, by simp, by simp⟩
  simp only [buffered, noted, appended, Option.bind_eq_bind, Option.bind_some]
  by_cases busy : conn.channel.writing = true
  · refine ⟨{ conn with outputBuffer := output }, functors, ?_,
      ⟨rfl, rfl, rfl, rfl, Or.inl state⟩, busy, content, own, kept⟩
    rw [if_pos busy, edit_store]
  · refine ⟨{ conn with
      outputBuffer := output
      channel := { conn.channel with writing := true, addedToLoop := true, index := .kAdded } },
      functors, ?_, ⟨rfl, rfl, rfl, index.symm, Or.inl state⟩, rfl, content, own, kept⟩
    rw [if_neg busy, updateChannel_added _ _ _ (by exact index) (by exact registered), edit_store]
    simp [Channel.isNoneEvent]

/-- How connections get from one server to a later one: a disconnected one stays
as it is, an open one stays open unless it may have been closed on the way. -/
def Carried (closable : Nat → Prop) (before after : Server) : Prop :=
  before.objects.length ≤ after.objects.length ∧
  ∀ id conn, before.objects[id]? = some conn →
    ∃ next, after.objects[id]? = some next ∧ next.channel.fd = conn.channel.fd ∧
      (conn.state = .kDisconnected → next = conn) ∧
      (¬ closable id → conn.state ≠ .kDisconnected → next.state ≠ .kDisconnected)

theorem Carried.refl (closable : Nat → Prop) (server : Server) :
    Carried closable server server :=
  ⟨Nat.le_refl _, fun _ conn held => ⟨conn, held, rfl, fun _ => rfl, fun _ live => live⟩⟩

theorem Carried.of_objects {closable : Nat → Prop} {before after : Server}
    (same : after.objects = before.objects) : Carried closable before after := by
  refine ⟨same ▸ Nat.le_refl _, ?_⟩
  rw [same]
  exact (Carried.refl closable before).2

theorem Carried.trans {closable : Nat → Prop} {first second third : Server}
    (before : Carried closable first second) (after : Carried closable second third) :
    Carried closable first third := by
  refine ⟨before.1.trans after.1, ?_⟩
  intro id conn held
  obtain ⟨middle, heldMiddle, fdMiddle, still, live⟩ := before.2 id conn held
  obtain ⟨next, heldNext, fdNext, stillNext, liveNext⟩ := after.2 id middle heldMiddle
  refine ⟨next, heldNext, fdNext.trans fdMiddle, ?_, ?_⟩
  · intro gone
    have same := still gone
    rw [← same] at gone
    rw [stillNext gone, same]
  · intro kept here
    exact liveNext kept (live kept here)

theorem carried_edit {closable : Nat → Prop} {id : Nat} {conn next : TcpConnection}
    {functors : List Functor} {labels : List Seen} {server : Server}
    (held : server.objects[id]? = some conn) (live : conn.state ≠ .kDisconnected)
    (fd : next.channel.fd = conn.channel.fd)
    (open' : ¬ closable id → next.state ≠ .kDisconnected) :
    Carried closable server (edit id next functors labels server) := by
  have inside : id < server.objects.length := (List.getElem?_eq_some_iff.mp held).1
  refine ⟨by simp [edit], ?_⟩
  intro other conn' held'
  rw [edit_objects id other next functors labels server inside]
  by_cases own : other = id
  · subst own
    rw [held, Option.some.injEq] at held'
    subst held'
    exact ⟨next, if_pos rfl, fd, fun gone => absurd gone live, fun kept _ => open' kept⟩
  · exact ⟨conn', by rw [if_neg own, held'], rfl, fun _ => rfl, fun _ live => live⟩

theorem Continues.live {conn next : TcpConnection} (continues : Continues conn next) :
    next.state ≠ .kDisconnected := by
  rcases continues.state with state | state <;> simp [state]

end Open

/-! The calls that callbacks make. -/
section Calls

variable {closing : Option Nat} {running : List Functor} {server : Server} {id : Nat}
  {conn : TcpConnection}

/-- What is known of a connection that has not been closed. -/
theorem opened_facts (sound : Sound closing running server)
    (held : server.objects[id]? = some conn) (live : conn.state ≠ .kDisconnected) :
    conn.channel.index = .kAdded ∧ server.channels.find? conn.channel.fd = some id ∧
      conn.channel.reading = true ∧ closing ≠ some id ∧
      Flow id conn (seenOf id server.seen) ∧
      (conn.state = .kConnected ∨ conn.state = .kDisconnecting) := by
  obtain ⟨-, ⟨phase, here, marks⟩, flow⟩ := sound.conns id conn held
  obtain rfl := opened_of_state here live
  refine ⟨here.index, here.registered.mpr (by simp), here.reading.mpr rfl, ?_, flow, ?_⟩
  · intro same
    cases marks.mpr same
  · have settled := here.settled
    cases state : conn.state <;> simp_all

/-- A connection on which a message was sent: what it was given went to the
kernel or to its buffer. -/
theorem sound_sent {next : TcpConnection} {functors : List Functor} {labels : List Seen}
    (sound : Sound closing running server) (held : server.objects[id]? = some conn)
    (state : conn.state = .kConnected) (continues : Continues conn next)
    (functorsOwn : ∀ functor ∈ functors, about functor = id)
    (undestroyed : .connectDestroyed id ∉ functors)
    (labelsOwn : ∀ label ∈ labels, subject label = id) (lifeless : labels.filter isLife = [])
    (unshut : .shutdownWrite id ∉ labels)
    (balance : conn.outputBuffer.readable ++ labels.flatMap sentPart =
      labels.flatMap wrotePart ++ next.outputBuffer.readable)
    (writing : next.channel.writing = true ↔ next.outputBuffer.readable ≠ []) :
    Sound closing running (edit id next functors labels server) := by
  have live : conn.state ≠ .kDisconnected := by simp [state]
  have flow := (sound.conns id conn held).flow
  have before : .shutdownWrite id ∉ seenOf id server.seen := by
    rcases flow.last with none | ⟨apart, -⟩
    · exact none
    · exact absurd state apart
  exact sound_opened sound held live continues functorsOwn undestroyed labelsOwn [] lifeless
    (flow_edit flow balance (fun _ => writing) (Or.inl (by simp [before, unshut])))

theorem sendInLoop_sound (sound : Sound closing running server)
    (held : server.objects[id]? = some conn) (state : conn.state = .kConnected)
    (message : Bytes) (answer : WriteAnswer) :
    ∃ next functors labels, sendInLoop id conn message answer server =
        some (edit id next functors labels server) ∧ Continues conn next ∧
      Sound closing running (edit id next functors labels server) := by
  have live : conn.state ≠ .kDisconnected := by simp [state]
  obtain ⟨index, registered, -, -, flow, -⟩ := opened_facts sound held live
  have writing := flow.writing live
  have same : Continues conn conn := ⟨rfl, rfl, rfl, rfl, Or.inl state⟩
  have unchanged := edit_self id conn server held
  have length := conn.outputBuffer.readable_length
  simp only [sendInLoop, if_neg live]
  by_cases direct : (!conn.channel.writing && conn.outputBuffer.readableBytes == 0) = true
  · have empty : conn.outputBuffer.readable = [] := by
      apply List.eq_nil_of_length_eq_zero
      simp only [Bool.and_eq_true, beq_iff_eq] at direct
      omega
    have taken : answer.accepted message.length ≤ message.length := by
      cases answer <;> simp [WriteAnswer.accepted]
    have written : (server.log (.sent id message)).log
        (.wrote id (message.take (answer.accepted message.length))) =
        edit id conn [] [.sent id message,
          .wrote id (message.take (answer.accepted message.length))] server := by
      rw [← unchanged, edit_log, edit_log, unchanged]
      rfl
    rw [if_pos direct, written]
    by_cases fault : answer.faultError = true
    · -- the message is given up
      refine ⟨conn, [], [.dropped id message], ?_, same, ?_⟩
      · rw [if_pos fault]
        congr 1
        rw [← unchanged, edit_log, unchanged]
        rfl
      · exact sound_sent sound held state same (by simp) (by simp) (by simp [subject]) rfl
          (by simp) (by simp [sentPart, wrotePart]) writing
    · rw [if_neg fault]
      by_cases part : answer.accepted message.length < message.length
      · -- the kernel took a part, the rest is buffered
        obtain ⟨next, functors, ran, continues, waits, content, own, kept⟩ :=
          buffered_edit id conn (message.drop (answer.accepted message.length))
            [.sent id message, .wrote id (message.take (answer.accepted message.length))]
            server index registered state
        refine ⟨next, functors, _, by rw [if_pos part, ran], continues, ?_⟩
        refine sound_sent sound held state continues own kept (by simp [subject]) rfl (by simp)
          ?_ ?_
        · simp [sentPart, wrotePart, content, empty]
        · simp [waits, content, empty, part]
      · have whole : answer.accepted message.length = message.length := by omega
        rw [if_neg part, whole, List.take_length]
        have balance : conn.outputBuffer.readable ++
            [Seen.sent id message, .wrote id message].flatMap sentPart =
              [Seen.sent id message, .wrote id message].flatMap wrotePart ++
                conn.outputBuffer.readable := by
          simp [sentPart, wrotePart, empty]
        have quiet : Sound closing running
            (edit id conn [] [.sent id message, .wrote id message] server) :=
          sound_sent sound held state same (by simp) (by simp) (by simp [subject]) rfl (by simp)
            balance writing
        cases answer with
        | failed errno => exact ⟨conn, [], _, rfl, same, quiet⟩
        | wrote count =>
            by_cases noted : server.hasWriteComplete = true
            · refine ⟨conn, [.writeComplete id], [.sent id message, .wrote id message], ?_, same,
                ?_⟩
              · simp only [noted, ↓reduceIte, edit_queueInLoop, List.nil_append]
              · exact sound_sent sound held state same (by simp [about]) (by simp)
                  (by simp [subject]) rfl (by simp) balance writing
            · refine ⟨conn, [], _, ?_, same, quiet⟩
              simp only [noted, Bool.false_eq_true, ↓reduceIte]
  · rw [if_neg direct]
    have logged : server.log (.sent id message) = edit id conn [] [.sent id message] server := by
      rw [← unchanged, edit_log, unchanged]
      rfl
    rw [logged]
    by_cases empty : 0 < message.length
    · obtain ⟨next, functors, ran, continues, waits, content, own, kept⟩ :=
        buffered_edit id conn message [.sent id message] server index registered state
      refine ⟨next, functors, _, by rw [if_pos empty, ran], continues, ?_⟩
      refine sound_sent sound held state continues own kept (by simp [subject]) rfl (by simp) ?_ ?_
      · simp [sentPart, wrotePart, content]
      · simp only [waits, content, true_iff]
        exact List.append_ne_nil_of_right_ne_nil _ (List.ne_nil_of_length_pos empty)
    · obtain rfl := List.eq_nil_of_length_eq_zero (Nat.eq_zero_of_not_pos empty)
      refine ⟨conn, [], _, by rw [if_neg empty], same, ?_⟩
      exact sound_sent sound held state same (by simp) (by simp) (by simp [subject]) rfl (by simp)
        (by simp [sentPart, wrotePart]) writing

/-- The write end of a connection without output is shut once. -/
theorem shut_last {log : List Seen} (unshut : .shutdownWrite id ∉ log) :
    ∃ before, (log ++ [Seen.shutdownWrite id]).filter isFlow = before ++ [.shutdownWrite id] ∧
      .shutdownWrite id ∉ before :=
  ⟨log.filter isFlow, by simp [List.filter_append, isFlow],
    fun member => unshut (List.mem_of_mem_filter member)⟩

/-- What a handler that may close the `closable` connections leaves. -/
def Kept (closing : Option Nat) (running : List Functor) (closable : Nat → Prop)
    (before : Server) (result : Option Server) : Prop :=
  ∃ after, result = some after ∧ Sound closing running after ∧
    Carried closable before after ∧ after.objects.length = before.objects.length

theorem kept_self {closable : Nat → Prop} (sound : Sound closing running server) :
    Kept closing running closable server (some server) :=
  ⟨server, rfl, sound, Carried.refl _ server, rfl⟩

theorem Kept.then {closable : Nat → Prop} {result : Option Server}
    {next : Server → Option Server} (first : Kept closing running closable server result)
    (second : ∀ middle, result = some middle → Sound closing running middle →
      Carried closable server middle → Kept closing running closable middle (next middle)) :
    Kept closing running closable server (result >>= next) := by
  obtain ⟨middle, ran, sound, carried, size⟩ := first
  obtain ⟨after, went, still, further, sizes⟩ := second middle ran sound carried
  exact ⟨after, by rw [ran]; exact went, still, carried.trans further, sizes.trans size⟩

theorem kept_edit {closable : Nat → Prop} {next : TcpConnection} {functors : List Functor}
    {labels : List Seen}
    (held : server.objects[id]? = some conn) (live : conn.state ≠ .kDisconnected)
    (continues : Continues conn next)
    (sound : Sound closing running (edit id next functors labels server)) :
    Kept closing running closable server (some (edit id next functors labels server)) :=
  ⟨_, rfl, sound, carried_edit held live continues.fd fun _ => continues.live,
    by simp [edit]⟩

theorem shutdown_sound {closable : Nat → Prop} (sound : Sound closing running server)
    (held : server.objects[id]? = some conn) (state : conn.state = .kConnected) :
    Kept closing running closable server (some (shutdownInLoop id
      { conn with state := .kDisconnecting }
      (server.store id { conn with state := .kDisconnecting }))) := by
  have live : conn.state ≠ .kDisconnected := by simp [state]
  obtain ⟨-, -, -, -, flow, -⟩ := opened_facts sound held live
  have writing := flow.writing live
  have unchanged := edit_self id conn server held
  have continues : Continues conn { conn with state := .kDisconnecting } :=
    ⟨rfl, rfl, rfl, rfl, Or.inr rfl⟩
  have stored : server.store id { conn with state := .kDisconnecting } =
      edit id { conn with state := .kDisconnecting } [] [] server := by
    rw [← unchanged, edit_store, unchanged]
  have unshut : .shutdownWrite id ∉ seenOf id server.seen := by
    rcases flow.last with none | ⟨apart, -⟩
    · exact none
    · exact absurd state apart
  rw [stored]
  by_cases busy : conn.channel.writing = true
  · rw [shutdownInLoop, if_pos busy]
    refine kept_edit held live continues (sound_opened sound held live continues (by simp)
      (by simp) (by simp) [] rfl (flow_edit flow (by simp) (fun _ => writing) ?_))
    exact Or.inl (by simpa using unshut)
  · have empty : conn.outputBuffer.readable = [] := by
      by_contra some
      exact busy (writing.mpr some)
    rw [shutdownInLoop, if_neg busy, edit_log]
    refine kept_edit held live continues (sound_opened sound held live continues (by simp)
      (by simp) (by simp [subject]) [] rfl
      (flow_edit flow (by simp [sentPart, wrotePart]) (fun _ => writing) ?_))
    exact Or.inr ⟨by simp, empty, shut_last unshut⟩

theorem forceClose_sound {closable : Nat → Prop} (sound : Sound closing running server)
    (held : server.objects[id]? = some conn) (live : conn.state ≠ .kDisconnected) :
    Kept closing running closable server (some ((server.store id
      { conn with state := .kDisconnecting }).queueInLoop (.forceCloseInLoop id))) := by
  obtain ⟨-, -, -, -, flow, -⟩ := opened_facts sound held live
  have unchanged := edit_self id conn server held
  have continues : Continues conn { conn with state := .kDisconnecting } :=
    ⟨rfl, rfl, rfl, rfl, Or.inr rfl⟩
  have queued : (server.store id { conn with state := .kDisconnecting }).queueInLoop
      (.forceCloseInLoop id) =
      edit id { conn with state := .kDisconnecting } [.forceCloseInLoop id] [] server := by
    rw [← unchanged, edit_store, edit_queueInLoop, unchanged]
    rfl
  rw [queued]
  refine kept_edit held live continues (sound_opened sound held live continues (by simp [about])
    (by simp) (by simp) [] rfl
    (flow_edit flow (by simp) (fun _ => flow.writing live) ?_))
  rcases flow.last with none | ⟨-, empty, shut⟩
  · exact Or.inl (by simpa using none)
  · exact Or.inr ⟨by simp, empty, by simpa using shut⟩

/-- Whatever a callback calls, on whichever connections, nothing fails. -/
theorem perform_sound {closable : Nat → Prop} (sound : Sound closing running server)
    (call : Call) : Kept closing running closable server (perform server call) := by
  cases call with
  | send id message answer =>
      simp only [perform]
      cases held : server.objects[id]? with
      | none => exact kept_self sound
      | some conn =>
          by_cases state : conn.state = .kConnected
          · obtain ⟨next, functors, labels, ran, continues, kept⟩ :=
              sendInLoop_sound sound held state message answer
            simp only [state, ↓reduceIte, ran]
            exact kept_edit held (by simp [state]) continues kept
          · simp only [state, ↓reduceIte]
            exact kept_self sound
  | shutdown id =>
      simp only [perform]
      cases held : server.objects[id]? with
      | none => exact kept_self sound
      | some conn =>
          by_cases state : conn.state = .kConnected
          · simp only [state, ↓reduceIte]
            exact shutdown_sound sound held state
          · simp only [state, ↓reduceIte]
            exact kept_self sound
  | forceClose id =>
      simp only [perform]
      cases held : server.objects[id]? with
      | none => exact kept_self sound
      | some conn =>
          by_cases state : conn.state = .kConnected ∨ conn.state = .kDisconnecting
          · simp only [state, ↓reduceIte]
            exact forceClose_sound sound held (by rcases state with state | state <;> simp [state])
          · simp only [state, ↓reduceIte]
            exact kept_self sound

theorem calls_sound (closable : Nat → Prop) (calls : List Call) {server : Server}
    (sound : Sound closing running server) :
    Kept closing running closable server (calls.foldlM perform server) := by
  induction calls generalizing server with
  | nil => exact kept_self sound
  | cons call rest ih =>
      rw [List.foldlM_cons]
      exact (perform_sound sound call).then fun _ _ kept _ => ih kept

end Calls


end EdoyumIM.ConnectionPhases
