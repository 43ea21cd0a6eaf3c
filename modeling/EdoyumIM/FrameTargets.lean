import EdoyumIM.HandlerSteps

/-!
Where a chat frame takes its target from. `m_target` and `m_targets` are fields
of the session object, and a read that fails leaves them as an earlier frame set
them. The result is a two-run one: as long as every chat frame carries its
target, overwriting these fields between the frames of a run changes nothing
that the run sends or stores.
-/

namespace EdoyumIM.FrameTargets

open MachineWords FieldCodec JsonValue OrderedStore Effects UserStore ChatWorld ChatServer
open HandlerSteps

/-! Actions on two worlds that differ in the target fields alone. -/
section Actions

theorem deliver_respects (channel : Channel) (target : Int32) (item : Item)
    (writer : BinaryWriter) (cached : Bytes) :
    Respects SameButTargets (deliver channel target item writer cached) := by
  intro left right same
  have address := addressOf_blind target left right same
  cases found : right.addressOf target with
  | none =>
      rw [deliver_offline _ _ _ _ _ left (address.trans found),
        deliver_offline _ _ _ _ _ right found]
      exact ⟨rfl, rfl, { same with cache := by rw [same.cache] }⟩
  | some peer =>
      rw [deliver_online _ _ _ _ _ left peer (address.trans found),
        deliver_online _ _ _ _ _ right peer found]
      exact ⟨rfl, rfl, same⟩

theorem modify_respects (conn : Bytes) (change : ClientSession → ClientSession)
    (blind : ∀ left right, SameSession left right → SameSession (change left) (change right)) :
    Respects SameButTargets (Act.modify (World.modifySession conn change) : Handler Unit) := by
  intro left right same
  exact ⟨rfl, rfl, { same with sessions := OrderedMap.related_modify conn blind same.sessions }⟩

theorem ask_respects {α : Type} (operation : Bool → Store → α × Store) :
    Respects SameButTargets (ask operation) := by
  intro left right same
  simp only [ask, Act.call_apply, same.store, same.answers, same.asked]
  exact ⟨trivial, trivial, { same with store := rfl, answers := rfl, asked := rfl }⟩

theorem basic_respects {kind : Option MsgType} (me : ClientSession) (conn data : Bytes)
    {α : Type} {command : Handler α}
    (basic : Basic me kind conn data α command) : Respects SameButTargets command := by
  cases basic with
  | look question blind =>
      exact fun left right same => ⟨rfl, congrArg Except.ok (blind left right same), same⟩
  | reply bytes => exact fun left right same => ⟨rfl, rfl, same⟩
  | status peer bytes => exact fun left right same => ⟨rfl, rfl, same⟩
  | ask call => exact ask_respects _
  | edit change keepsUser blind => exact modify_respects conn change blind
  | direct target person => exact deliver_respects _ _ _ _ _
  | group target writer => exact deliver_respects _ _ _ _ _
  | notify type target outbuf => exact deliver_respects _ _ _ _ _

theorem built_respects (kind : Option MsgType) (me : ClientSession) (conn data : Bytes)
    {α : Type} {command : Handler α}
    (built : Built (Basic me kind conn data) command) : Respects SameButTargets command :=
  built.respects fun basic => basic_respects me conn data basic

theorem replay_respects (conn : Bytes) (channel : Channel) (userid : Int32) :
    Respects SameButTargets (replay conn channel userid) := by
  intro left right same
  rw [replay_outcome, replay_outcome, same.cache]
  exact ⟨rfl, rfl, { same with cache := rfl }⟩

theorem logIn_respects (env : Env) (me : ClientSession) (conn username password : Bytes)
    (user : User) : Respects SameButTargets (logIn env me conn username password user) := by
  refine respects_bind (modify_respects conn _ fun left right same => ?_) fun _ => ?_
  · exact ⟨same.1, by simp [enter, same.2]⟩
  refine respects_bind (fun left right same => ⟨rfl, rfl, same⟩) fun _ => ?_
  refine respects_bind (replay_respects conn _ _) fun _ => ?_
  refine respects_bind (replay_respects conn _ _) fun _ => ?_
  exact built_respects none me conn [] (built_tellFriends env me conn [] _ _ _)

theorem login_respects (env : Env) (me : ClientSession) (conn data : Bytes) :
    Respects SameButTargets (onLoginResponse env me conn data) := by
  have answered : ∀ kind response,
      Respects SameButTargets (answer env me conn kind response) :=
    fun kind response left right same => ⟨rfl, rfl, same⟩
  refine respects_bind (fun left right same => ⟨rfl, rfl, same⟩) fun parsed => ?_
  cases parsed with
  | none => exact answered _ _
  | some root =>
      refine respects_bind (fun left right same => ⟨rfl, rfl, same⟩) fun fields => ?_
      cases fields with
      | none => exact answered _ _
      | some pair =>
          refine respects_bind (built_respects none me conn data (built_look me conn data _))
            fun found => ?_
          cases found with
          | none => exact answered _ _
          | some user =>
              dsimp only
              split_ifs
              · exact answered _ _
              · exact logIn_respects env me conn _ _ user

end Actions

/-! Frames. The handlers see the session object too, so the two runs hand them
two objects that may differ in the target fields. -/
section Frames

variable (env : Env) (conn : Bytes) (mem : Nat → UInt8) (garbage : Int32) (msgbuff : Bytes)

/-- If this is a chat frame, it carries the four bytes of its target behind the
data string. -/
def targetReadable : Bool :=
  match decodeFrame mem msgbuff with
  | none => true
  | some (cmd, _, _, rest) => MsgType.ofCode cmd ≠ some .chat || rest.readInt.isSome

theorem request_same (one other : ClientSession) (same : SameSession one other) (cmd : Int32)
    (rest : BinaryReader) (data : Bytes)
    (readable : MsgType.ofCode cmd = some .chat → rest.readInt.isSome) :
    request env one conn mem garbage cmd rest data =
      request env other conn mem garbage cmd rest data := by
  obtain ⟨m_seq, m_user, target, targets⟩ := one
  obtain ⟨m_seq', m_user', target', targets'⟩ := other
  obtain ⟨rfl, rfl⟩ : m_seq = m_seq' ∧ m_user = m_user' := same
  rw [request, request]
  cases code : MsgType.ofCode cmd with
  | none => rfl
  | some kind =>
      cases kind with
      | chat =>
          -- the read overwrites `m_target` in both objects before it is used
          obtain ⟨read, found⟩ := Option.isSome_iff_exists.mp (readable code)
          simp only [chatRequest, found]
          rfl
      | multichat => rfl
      | _ => rfl

theorem request_respects (me : ClientSession) (cmd : Int32) (rest : BinaryReader) (data : Bytes) :
    Respects SameButTargets (request env me conn mem garbage cmd rest data) := by
  by_cases login : MsgType.ofCode cmd = some .login
  · rw [request_login env me conn mem garbage data rest cmd login]
    exact login_respects env me conn data
  · exact built_respects _ me conn data (built_request env me conn mem garbage data rest cmd login)

theorem process_respects (me : ClientSession) :
    Respects SameButTargets (process env me conn mem garbage msgbuff) := by
  cases decoded : decodeFrame mem msgbuff with
  | none =>
      exact built_respects none me conn [] (process_undecoded env me conn mem garbage msgbuff decoded [])
  | some parts =>
      obtain ⟨cmd, m_seq, data, rest⟩ := parts
      rw [process_decoded env me conn mem garbage msgbuff cmd m_seq data rest decoded]
      refine respects_bind ?_ fun _ => respects_bind ?_ fun _ left right same => ⟨rfl, rfl, same⟩
      · exact modify_respects conn _ fun _ _ same => ⟨rfl, same.2⟩
      · exact request_respects env conn mem garbage _ cmd rest data

theorem process_same (one other : ClientSession) (same : SameSession one other)
    (readable : targetReadable mem msgbuff) :
    process env one conn mem garbage msgbuff = process env other conn mem garbage msgbuff := by
  cases front : readHeader msgbuff with
  | none => simp only [process, front]
  | some parts =>
      obtain ⟨cmd, m_seq, reader⟩ := parts
      cases read : reader.readString mem with
      | error fault => simp only [process, front, read, Act.lift_error_bind]
      | ok parts =>
          obtain ⟨data, rest⟩ := parts
          have decoded : decodeFrame mem msgbuff = some (cmd, m_seq, data, rest) := by
            simp only [decodeFrame, front, read]
          have carried : MsgType.ofCode cmd = some .chat → rest.readInt.isSome := by
            simpa [targetReadable, decoded, imp_iff_not_or] using readable
          have agree := request_same env conn mem garbage { one with m_seq := m_seq }
            { other with m_seq := m_seq } ⟨rfl, same.2⟩ cmd rest data carried
          rw [process_decoded env one conn mem garbage msgbuff cmd m_seq data rest decoded,
            process_decoded env other conn mem garbage msgbuff cmd m_seq data rest decoded, agree]

end Frames

/-! Events and runs. -/
section Runs

variable (env : Env)

def readable : Event → Bool
  | .frame _ msgbuff mem _ => targetReadable mem msgbuff
  | _ => true

theorem finish_same {α : Type} (left right : Outcome World Label Fault α)
    (traces : left.trace = right.trace) (values : left.value = right.value)
    (states : SameButTargets left.state right.state) :
    (finish left).1 = (finish right).1 ∧ SameButTargets (finish left).2 (finish right).2 := by
  rw [finish, finish, values]
  cases right.value with
  | ok value => exact ⟨traces, states⟩
  | error fault => exact ⟨traces, { states with up := rfl }⟩

/-- One event from two worlds that differ in the target fields alone. -/
theorem step_same (left right : World) (same : SameButTargets left right) (event : Event)
    (carried : readable event) :
    (step env left event).1 = (step env right event).1 ∧
      SameButTargets (step env left event).2 (step env right event).2 := by
  rw [step, step, same.up]
  split_ifs with up
  · cases event with
    | connect conn junkTarget =>
        exact ⟨rfl, { same with
          sessions := OrderedMap.related_insert (fun _ => ⟨rfl, rfl⟩) conn _ same.sessions }⟩
    | disconnect conn =>
        exact ⟨rfl, { same with sessions := OrderedMap.related_erase conn same.sessions }⟩
    | frame conn msgbuff mem garbage =>
        simp only [serve]
        have found := OrderedMap.related_find? conn same.sessions
        generalize left.m_mapclient.find? conn = one at found ⊢
        generalize right.m_mapclient.find? conn = other at found ⊢
        cases found with
        | none => exact ⟨rfl, same⟩
        | @some one other sessions =>
            obtain ⟨traces, values, states⟩ :=
              process_respects env conn mem garbage msgbuff other left right same
            -- first the session object is exchanged, then the world
            have agree := process_same env conn mem garbage msgbuff one other sessions carried
            exact finish_same (process env one conn mem garbage msgbuff left) _
              (agree ▸ traces) (agree ▸ values) (agree ▸ states)
  · exact ⟨rfl, same⟩

/-- Overwrite the target fields of every session. -/
def retarget (fields : Bytes → Int32 × Bytes) (world : World) : World :=
  { world with
    m_mapclient := world.m_mapclient.mapValues fun conn session =>
      { session with m_target := (fields conn).1, m_targets := (fields conn).2 } }

theorem retarget_same (fields : Bytes → Int32 × Bytes) (left right : World)
    (same : SameButTargets left right) : SameButTargets left (retarget fields right) :=
  { same with
    sessions := List.forall₂_map_right_iff.mpr (same.sessions.imp fun _ _ head => head) }

/-- A step behind an overwriting of the target fields. -/
def retargetedStep (world : World) (entry : (Bytes → Int32 × Bytes) × Event) : List Label × World :=
  step env (retarget entry.1 world) entry.2

theorem runs_same (entries : List ((Bytes → Int32 × Bytes) × Event)) (left right : World)
    (same : SameButTargets left right) (carried : ∀ entry ∈ entries, readable entry.2) :
    (run (step env) left (entries.map Prod.snd)).1 = (run (retargetedStep env) right entries).1 ∧
      SameButTargets (run (step env) left (entries.map Prod.snd)).2
        (run (retargetedStep env) right entries).2 := by
  induction entries generalizing left right with
  | nil => exact ⟨rfl, same⟩
  | cons entry rest ih =>
      -- overwriting keeps the two worlds alike, and so does the step behind it
      obtain ⟨labels, states⟩ := step_same env left (retarget entry.1 right)
        (retarget_same entry.1 left right same) entry.2 (carried entry (by simp))
      obtain ⟨traces, ends⟩ := ih _ _ states fun other member => carried other (by simp [member])
      refine ⟨?_, ends⟩
      simp only [run, List.map_cons]
      rw [labels, traces]
      rfl

/-- Nothing was sent, and neither the store nor a cache changed. -/
def Silent (before : World) (trace : List Label) (after : World) : Prop :=
  trace = [] ∧ after.store = before.store ∧ after.cache = before.cache

theorem silent_composable : Composable Silent where
  nothing _ := ⟨rfl, rfl, rfl⟩
  sequence := by
    rintro before middle after first second ⟨rfl, stores, caches⟩ ⟨rfl, stores', caches'⟩
    exact ⟨rfl, stores'.trans stores, caches'.trans caches⟩

/-- The target list that a multichat frame carries, if it can be read. -/
def targetList (mem : Nat → UInt8) (rest : BinaryReader) : Option (List Json) :=
  match rest.readString mem with
  | .error _ => none
  | .ok (targets, _) =>
      match env.parse targets with
      | .ok (some root) =>
          match root.member "targets" with
          | .ok (.array items) => some items
          | _ => none
      | _ => none

theorem multiChat_silent (me : ClientSession) (conn : Bytes) (mem : Nat → UInt8)
    (rest : BinaryReader) (data : Bytes) (unreadable : targetList env mem rest = none) :
    Keeps Silent (multiChatRequest env me conn mem rest data) := by
  have quiet : ∀ {α : Type} (result : Except Fault α), Keeps Silent (Act.lift result : Handler α) :=
    fun result world => silent_composable.nothing world
  have edits : ∀ change, Keeps Silent
      (Act.modify (World.modifySession conn change) : Handler Unit) :=
    fun change world => ⟨rfl, rfl, rfl⟩
  rw [multiChatRequest]
  rw [targetList] at unreadable
  cases read : rest.readString mem with
  | error fault => exact quiet (.error fault)
  | ok parts =>
      obtain ⟨targets, after⟩ := parts
      simp only [Act.lift_ok_bind]
      refine keeps_bind silent_composable (edits _) fun _ => ?_
      rw [onMultiChatResponse]
      simp only [read] at unreadable
      cases parsed : env.parse targets with
      | error fault => exact quiet (.error fault)
      | ok document =>
          cases document with
          | none => exact quiet (.ok ())
          | some root =>
              simp only [parsed] at unreadable
              simp only [Act.lift_ok_bind]
              cases member : root.member "targets" with
              | error fault => exact quiet (.error fault)
              | ok value =>
                  cases value with
                  | array items => simp [member] at unreadable
                  -- no other value has elements to go through
                  | _ => exact quiet (.ok ())

/-- A chat or multichat frame without a target that can be read. -/
def untargeted : Event → Bool
  | .frame _ msgbuff mem _ =>
      match decodeFrame mem msgbuff with
      | none => false
      | some (cmd, _, _, rest) =>
          (MsgType.ofCode cmd = some .chat && rest.readInt.isNone) ||
            (MsgType.ofCode cmd = some .multichat && (targetList env mem rest).isNone)
  | _ => false

theorem untargeted_silent (world : World) (event : Event) (carried : readable event)
    (without : untargeted env event) :
    Silent world (step env world event).1 (step env world event).2 := by
  cases event with
  | connect conn junkTarget => cases without
  | disconnect conn => cases without
  | frame conn msgbuff mem garbage =>
      cases decoded : decodeFrame mem msgbuff with
      | none => simp [untargeted, decoded] at without
      | some parts =>
      obtain ⟨cmd, m_seq, data, rest⟩ := parts
      have kind : MsgType.ofCode cmd = some .multichat ∧ targetList env mem rest = none := by
        rcases (by simpa [untargeted, decoded] using without :
          (MsgType.ofCode cmd = some .chat ∧ rest.readInt = none) ∨
            (MsgType.ofCode cmd = some .multichat ∧ targetList env mem rest = none)) with
          ⟨chat, missing⟩ | multichat
        -- a chat frame of this kind is what the condition on the run excludes
        · simp [readable, targetReadable, decoded, chat, missing] at carried
        · exact multichat
      rw [step]
      split_ifs
      · rw [serve]
        split
        · exact silent_composable.nothing world
        · next me _ =>
          have silent : Keeps Silent (process env me conn mem garbage msgbuff) := by
            rw [process_decoded env me conn mem garbage msgbuff cmd m_seq data rest decoded,
              request, kind.1]
            exact keeps_bind silent_composable (fun _ => ⟨rfl, rfl, rfl⟩) fun _ =>
              keeps_bind silent_composable (multiChat_silent env _ conn mem rest data kind.2)
                fun _ state => silent_composable.nothing state
          have handled := silent world
          rw [finish]
          split <;> exact handled
      · exact silent_composable.nothing world

/-- In every run whose chat frames carry their targets, overwriting the target
fields of all sessions before every event changes neither what is sent nor what
is stored or cached, and a frame without a readable target delivers to nobody. -/
theorem targets_are_own (database : Database) (answers : Nat → Bool) (asked : Nat)
    (entries : List ((Bytes → Int32 × Bytes) × Event))
    (carried : ∀ entry ∈ entries, readable entry.2) :
    let start := boot env database answers asked
    let plain := run (step env) start (entries.map Prod.snd)
    let overwritten := run (retargetedStep env) start entries
    (overwritten.1 = plain.1 ∧ overwritten.2.store = plain.2.store ∧
      overwritten.2.cache = plain.2.cache) ∧
    ∀ before event after, entries.map Prod.snd = before ++ event :: after → untargeted env event →
      Silent (run (step env) start before).2 (step env (run (step env) start before).2 event).1
        (step env (run (step env) start before).2 event).2 := by
  intro start plain overwritten
  have same : SameButTargets start start :=
    ⟨rfl, rfl, .nil, rfl, rfl, rfl⟩
  obtain ⟨traces, ends⟩ := runs_same env entries start start same carried
  refine ⟨⟨traces.symm, ends.store.symm, ends.cache.symm⟩, ?_⟩
  intro before event after split without
  have member : event ∈ entries.map Prod.snd := by simp [split]
  obtain ⟨entry, inside, rfl⟩ := List.mem_map.mp member
  exact untargeted_silent env _ entry.2 (carried entry inside) without

/-- A chat to 5, and a multichat whose target list is no JSON text. -/
def sampleEntries : List ((Bytes → Int32 × Bytes) × Event) :=
  [(fun _ => (7, []), .connect [1] 0),
    (fun _ => (7, []), sampleFrame [1] .chat 1 (text "hi") (encodeInt 5)),
    (fun _ => (7, []), sampleFrame [1] .multichat 2 (text "hi") (encodeString (text "5")))]

theorem targets_are_own_two_frames :
    (∀ entry ∈ sampleEntries, readable entry.2) ∧
    (run (retargetedStep sampleEnv) (boot sampleEnv {} (fun _ => true) 0) sampleEntries).1 =
      (run (step sampleEnv) (boot sampleEnv {} (fun _ => true) 0)
        (sampleEntries.map Prod.snd)).1 := by
  have carried : ∀ entry ∈ sampleEntries, readable entry.2 := by decide +kernel
  exact ⟨carried, (targets_are_own sampleEnv {} (fun _ => true) 0 sampleEntries carried).1.1⟩

/-- A chat to 5, and then a chat frame that ends behind its data string. -/
def staleEntries : List ((Bytes → Int32 × Bytes) × Event) :=
  [(fun _ => (0, []), .connect [1] 0),
    (fun _ => (0, []), sampleFrame [1] .chat 1 (text "hi") (encodeInt 5)),
    (fun _ => (6, []), sampleFrame [1] .chat 2 (text "bye"))]

theorem truncated_chat_reuses_target :
    let start := boot sampleEnv {} (fun _ => true) 0
    (run (step sampleEnv) start (staleEntries.map Prod.snd)).1 =
      [.accept .chat 5 ⟨.direct, 1, -1, text "hi"⟩, .accept .chat 5 ⟨.direct, 2, -1, text "bye"⟩] ∧
    (run (retargetedStep sampleEnv) start staleEntries).1 =
      [.accept .chat 5 ⟨.direct, 1, -1, text "hi"⟩, .accept .chat 6 ⟨.direct, 2, -1, text "bye"⟩] ∧
    (run (retargetedStep sampleEnv) start staleEntries).1 ≠
      (run (step sampleEnv) start (staleEntries.map Prod.snd)).1 := by
  decide +kernel

end Runs

end EdoyumIM.FrameTargets
