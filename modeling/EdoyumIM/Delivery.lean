import EdoyumIM.HandlerSteps
import EdoyumIM.StoreForward

/-!
The server as a store-and-forward relay. For every user id that a session can
only hold through a login, the messages accepted for it are those sent to it
live or at a login, in order, followed by the ones still in the cache. The
invariant behind it: while such a user has a session, neither cache holds a
message for it.
-/

namespace EdoyumIM.Delivery

open MachineWords FieldCodec JsonValue OrderedStore Effects UserStore ChatWorld ChatServer
open HandlerSteps StoreForward
open SessionFraming (send)

section Mailboxes

/-- The mail of one user on one channel, restricted to the `wanted` items. -/
def mailOf (channel : Channel) (userid : Int32) (wanted : Item → Bool) :
    Relay World Label Item where
  queue world := ((world.cache.list channel).filter fun entry =>
    entry.userid = userid ∧ wanted entry.item).map CachedMsg.item
  accepted
    | .accept kind target item =>
        if kind = channel ∧ target = userid ∧ wanted item then some item else none
    | _ => none
  delivered
    | .send _ _ (.live kind target item) | .send _ _ (.replay kind target item) =>
        if kind = channel ∧ target = userid ∧ wanted item then some item else none
    | _ => none

def isDirect (item : Item) : Bool := item.stem = .direct

/-- Friend requests and the answers to them. -/
def isFriendNotice (item : Item) : Bool :=
  item.stem = .friendOperation 1 ∨ item.stem = .friendOperation 3

def Offline (userid : Int32) (world : World) : Prop :=
  ∀ iter ∈ world.m_mapclient.entries, iter.2.userID ≠ userid

theorem addressOf_eq_none (userid : Int32) (world : World) :
    world.addressOf userid = none ↔ Offline userid world := by
  simp [World.addressOf, World.getSessionByID, Offline]

theorem queue_eq (channel : Channel) (userid : Int32) (wanted : Item → Bool) (left right : World)
    (same : left.cache = right.cache) :
    (mailOf channel userid wanted).queue left = (mailOf channel userid wanted).queue right := by
  simp only [mailOf, same]

/-- Nobody who is online has mail waiting. An id below zero is exempt: every
session starts with such an id without a login. -/
def Settled (world : World) : Prop :=
  ∀ userid, 0 ≤ userid → Offline userid world ∨
    ∀ channel, ∀ entry ∈ world.cache.list channel, entry.userid ≠ userid

def Forwards (before : World) (trace : List Label) (after : World) : Prop :=
  ∀ channel userid wanted, 0 ≤ userid → (mailOf channel userid wanted).Conserves before trace after

theorem forwards_composable : Composable Forwards where
  nothing state := fun channel userid wanted _ =>
    (mailOf channel userid wanted).conserves_composable.nothing state
  sequence := by
    intro before middle after first second one other channel userid wanted person
    exact (mailOf channel userid wanted).conserves_composable.sequence
      (one channel userid wanted person) (other channel userid wanted person)

theorem settled_of_fewer (before after : World) (cache : after.cache = before.cache)
    (fewer : ∀ userid, 0 ≤ userid → Offline userid before → Offline userid after)
    (settled : Settled before) : Settled after := by
  intro userid person
  rcases settled userid person with offline | empty
  · exact Or.inl (fewer userid person offline)
  · exact Or.inr (by rw [cache]; exact empty)

end Mailboxes

section Actions

/-- Labels that no mailbox counts. -/
def Plain (label : Label) : Prop :=
  ∃ conn bytes cause, label = .send conn bytes cause ∧ (cause = .reply ∨ cause = .status)

theorem plain_quiet (trace : List Label) (plain : ∀ label ∈ trace, Plain label)
    (channel : Channel) (userid : Int32) (wanted : Item → Bool) :
    (mailOf channel userid wanted).Quiet trace := by
  intro label member
  obtain ⟨conn, bytes, cause, rfl, rfl | rfl⟩ := plain label member <;> exact ⟨rfl, rfl⟩

theorem forwards_plain (before after : World) (trace : List Label)
    (plain : ∀ label ∈ trace, Plain label) (cache : after.cache = before.cache) :
    Forwards before trace after := fun channel userid wanted _ =>
  (mailOf channel userid wanted).conserves_quiet before after trace
    (plain_quiet trace plain channel userid wanted) (queue_eq channel userid wanted _ _ cache)

/-- Storing for somebody who is away keeps the caches of all who are online empty. -/
theorem stored_settled (channel : Channel) (target : Int32) (entry : CachedMsg)
    (mine : entry.userid = target) (world : World) (away : Offline target world)
    (settled : Settled world) :
    Settled { world with cache := world.cache.addMsgCache channel entry } := by
  intro userid person
  rcases settled userid person with offline | empty
  · exact Or.inl offline
  · by_cases same : userid = target
    · exact Or.inl (same ▸ away)
    · refine Or.inr fun other old member => ?_
      simp only [MsgCacheManager.addMsgCache, MsgCacheManager.list_setList] at member
      split_ifs at member with here
      · rcases List.mem_append.mp member with before | new
        · exact empty channel old before
        · rw [List.mem_singleton.mp new, mine]
          exact fun hit => same hit.symm
      · exact empty other old member

theorem stored_forwards (channel : Channel) (target : Int32) (item : Item) (cached : Bytes)
    (world : World) :
    Forwards world [.accept channel target item]
      { world with cache := world.cache.addMsgCache channel ⟨target, cached, item⟩ } := by
  intro kind userid wanted person
  by_cases mine : channel = kind ∧ target = userid ∧ wanted item
  · refine Relay.conserves_stored _ _ _ _ item (if_pos mine) rfl ?_
    obtain ⟨rfl, rfl, counts⟩ := mine
    simp [mailOf, MsgCacheManager.addMsgCache, counts]
  · refine Relay.conserves_quiet _ _ _ _ ?_ ?_
    · intro label member
      rw [List.mem_singleton.mp member]
      exact ⟨if_neg mine, rfl⟩
    · -- the new entry stands in another list, or is filtered out of this one
      simp only [mailOf, MsgCacheManager.addMsgCache, MsgCacheManager.list_setList]
      split_ifs with here
      · subst here
        have skipped : ¬ (target = userid ∧ wanted item) := fun hit => mine ⟨rfl, hit⟩
        simp [skipped]
      · rfl

/-- A live send overtakes nothing: while its target is online, nothing is cached
for it. -/
theorem sent_forwards (channel : Channel) (target : Int32) (item : Item) (conn bytes : Bytes)
    (world : World) (online : world.addressOf target ≠ none) (settled : Settled world) :
    Forwards world
      [.accept channel target item, .send conn bytes (.live channel target item)] world := by
  intro kind userid wanted person
  by_cases mine : channel = kind ∧ target = userid ∧ wanted item
  · refine Relay.conserves_forwarded _ _ _ _ _ item (if_pos mine) rfl rfl (if_pos mine) ?_ rfl
    obtain ⟨rfl, rfl, counts⟩ := mine
    rcases settled target person with offline | empty
    · exact absurd ((addressOf_eq_none target world).mpr offline) online
    · simp only [mailOf, List.map_eq_nil_iff, List.filter_eq_nil_iff]
      intro entry member
      simp [empty channel entry member]
  · refine Relay.conserves_quiet _ _ _ _ ?_ rfl
    intro label member
    rcases List.mem_cons.mp member with rfl | last
    · exact ⟨if_neg mine, rfl⟩
    · rw [List.mem_singleton.mp last]
      exact ⟨rfl, if_neg mine⟩

theorem deliver_forwards (channel : Channel) (target : Int32) (item : Item)
    (writer : BinaryWriter) (cached : Bytes) :
    Keeps (Guarded Settled Forwards) (deliver channel target item writer cached) := by
  intro world settled
  cases found : world.addressOf target with
  | none =>
      rw [deliver_offline channel target item writer cached world found]
      have away := (addressOf_eq_none target world).mp found
      exact ⟨stored_settled channel target _ rfl world away settled,
        stored_forwards channel target item cached world⟩
  | some peer =>
      rw [deliver_online channel target item writer cached world peer found]
      exact ⟨settled, sent_forwards channel target item peer.1 _ world (by simp [found]) settled⟩

theorem offline_modify (conn : Bytes) (change : ClientSession → ClientSession)
    (keepsUser : ∀ session, (change session).m_user = session.m_user) (world : World)
    (userid : Int32) (offline : Offline userid world) :
    Offline userid (world.modifySession conn change) := by
  intro iter member
  obtain ⟨old, present, -, value⟩ := (OrderedMap.mem_modify _ _ _ _).mp member
  have unchanged : iter.2.userID = old.2.userID := by
    rw [value]
    split_ifs
    · exact congrArg User.userid (keepsUser old.2)
    · rfl
  exact unchanged ▸ offline old present

theorem basic_forwards {kind : Option MsgType} (me : ClientSession) (conn data : Bytes)
    {α : Type} {command : Handler α}
    (basic : Basic me kind conn data α command) : Keeps (Guarded Settled Forwards) command := by
  cases basic with
  | look question blind =>
      exact fun world settled => ⟨settled, forwards_composable.nothing world⟩
  | reply bytes =>
      refine fun world settled => ⟨settled, forwards_plain _ _ _ ?_ rfl⟩
      exact fun label member => ⟨conn, bytes, .reply, List.mem_singleton.mp member, Or.inl rfl⟩
  | status peer bytes =>
      refine fun world settled => ⟨settled, forwards_plain _ _ _ ?_ rfl⟩
      exact fun label member => ⟨peer, bytes, .status, List.mem_singleton.mp member, Or.inr rfl⟩
  | ask call =>
      exact fun world settled => ⟨settled_of_fewer world _ rfl (fun _ _ offline => offline) settled,
        forwards_plain _ _ _ (fun _ member => by simp [ask] at member) rfl⟩
  | edit change keepsUser blind =>
      refine fun world settled => ⟨?_, forwards_plain _ _ _ (fun _ member => by simp at member) rfl⟩
      exact settled_of_fewer world _ rfl
        (fun userid _ => offline_modify conn change keepsUser world userid) settled
  | direct target person => exact deliver_forwards _ _ _ _ _
  | group target writer => exact deliver_forwards _ _ _ _ _
  | notify type target outbuf => exact deliver_forwards _ _ _ _ _

end Actions

/-! A login drains both caches for the id it takes on, so it may break and then
restores the invariant; its sends conserve every mailbox on their own. -/
section Logins

/-- The replays of both channels hand on exactly what the drained caches lose. -/
theorem replayed_delivers (conn : Bytes) (world : World) (kind channel : Channel)
    (userid other : Int32) (wanted : Item → Bool) :
    (mailOf channel other wanted).deliveredIn (replayed conn world kind userid) =
      if kind = channel ∧ userid = other then (mailOf channel other wanted).queue world else [] := by
  split_ifs with mine
  · obtain ⟨rfl, rfl⟩ := mine
    simp only [Relay.deliveredIn, replayed, mailOf, List.filterMap_map]
    induction world.cache.list kind with
    | nil => rfl
    | cons entry rest ih =>
        by_cases here : entry.userid = userid <;> by_cases counts : wanted entry.item <;>
          simp_all
  · refine List.filterMap_eq_nil_iff.mpr fun label member => ?_
    obtain ⟨entry, -, rfl⟩ := List.mem_map.mp member
    exact if_neg fun hit => mine ⟨hit.1, hit.2.1⟩

theorem queue_loggedIn (conn username password : Bytes) (user : User) (world : World)
    (channel : Channel) (userid : Int32) (wanted : Item → Bool) :
    (mailOf channel userid wanted).queue (loggedIn conn world username password user) =
      if user.userid = userid then [] else (mailOf channel userid wanted).queue world := by
  simp only [mailOf, loggedIn, list_drained, List.filter_filter]
  split_ifs with own
  · simp only [List.map_eq_nil_iff, List.filter_eq_nil_iff]
    intro entry _
    simp +contextual [own]
  · congr 1
    refine List.filter_congr fun entry _ => ?_
    by_cases hit : entry.userid = userid
    · simp [hit, Ne.symm own]
    · simp [hit]

theorem logIn_forwards (env : Env) (me : ClientSession) (conn username password : Bytes)
    (user : User) (world : World) :
    Forwards world (logIn env me conn username password user world).trace
      (logIn env me conn username password user world).state := by
  obtain ⟨bytes, tells, plain, trace, state⟩ :=
    logIn_outcome env me conn world username password user
  intro channel userid wanted _
  have quiet : (mailOf channel userid wanted).Quiet tells := by
    refine plain_quiet tells (fun label member => ?_) channel userid wanted
    obtain ⟨peer, bytes, rfl⟩ := plain label member
    exact ⟨peer, bytes, .status, rfl, Or.inr rfl⟩
  rw [trace, state]
  refine Relay.conserves_drained _ _ _ _ ?_ ?_
  · intro label member
    simp only [List.mem_cons, List.mem_append, replayed, List.mem_map] at member
    rcases member with rfl | ⟨_, -, rfl⟩ | ⟨_, -, rfl⟩ | told
    · rfl
    · rfl
    · rfl
    · exact (quiet label told).1
  · have told : (mailOf channel userid wanted).deliveredIn tells = [] :=
      List.filterMap_eq_nil_iff.mpr fun label member => (quiet label member).2
    have parts : (mailOf channel userid wanted).deliveredIn
        (.send conn bytes .reply :: (replayed conn world .notify user.userid ++
          (replayed conn world .chat user.userid ++ tells))) =
        (mailOf channel userid wanted).deliveredIn (replayed conn world .notify user.userid) ++
          (mailOf channel userid wanted).deliveredIn (replayed conn world .chat user.userid) := by
      simp only [Relay.deliveredIn] at told ⊢
      rw [List.filterMap_cons_none rfl, List.filterMap_append, List.filterMap_append, told,
        List.append_nil]
    -- of the two replays only the one on this channel counts, and only for this id
    rw [parts, replayed_delivers, replayed_delivers, queue_loggedIn]
    cases channel <;> by_cases own : user.userid = userid <;> simp [own]

theorem login_settled (conn username password : Bytes) (user : User) (world : World)
    (settled : Settled world) : Settled (loggedIn conn world username password user) := by
  intro userid person
  by_cases own : userid = user.userid
  · refine Or.inr fun channel entry member => ?_
    rw [loggedIn, list_drained] at member
    simpa [own] using (List.mem_filter.mp member).2
  -- another id keeps its sessions, except that this one may have given it up
  · rcases settled userid person with offline | empty
    · refine Or.inl fun iter member => ?_
      obtain ⟨old, present, -, value⟩ := (OrderedMap.mem_modify _ _ _ _).mp member
      rw [value]
      split_ifs
      · exact fun hit => own hit.symm
      · exact offline old present
    · refine Or.inr fun channel entry member => ?_
      rw [loggedIn, list_drained] at member
      exact empty channel entry (List.mem_filter.mp member).1

theorem onLogin_forwards (env : Env) (me : ClientSession) (conn data : Bytes) :
    Keeps (Guarded Settled Forwards) (onLoginResponse env me conn data) := by
  intro world settled
  rcases login_cases env me conn data world with
    ⟨username, password, user, -, granted⟩ | ⟨-, unchanged, answered⟩
  · obtain ⟨_, _, -, -, state⟩ := logIn_outcome env me conn world username password user
    rw [granted]
    exact ⟨state ▸ login_settled conn username password user world settled,
      logIn_forwards env me conn username password user world⟩
  · refine ⟨unchanged.symm ▸ settled, forwards_plain _ _ _ (fun label member => ?_) (by rw [unchanged])⟩
    obtain ⟨bytes, rfl⟩ := answered label member
    exact ⟨conn, bytes, .reply, rfl, Or.inl rfl⟩

end Logins

section Runs

variable (env : Env)

theorem process_forwards (me : ClientSession) (conn : Bytes) (mem : Nat → UInt8) (garbage : Int32)
    (msgbuff : Bytes) :
    Keeps (Guarded Settled Forwards) (process env me conn mem garbage msgbuff) :=
  process_keeps env me conn mem garbage msgbuff (guarded_composable Settled forwards_composable)
    (fun _ _ data {_ _} basic => basic_forwards _ conn data basic)
    fun _ data => onLogin_forwards env _ conn data

theorem offline_connect (conn : Bytes) (junkTarget userid : Int32) (world : World)
    (person : 0 ≤ userid) (offline : Offline userid world) :
    Offline userid { world with
      m_mapclient := world.m_mapclient.insert conn { m_target := junkTarget } } := by
  intro iter member
  rcases mem_insertBy _ _ _ _ member with new | old
  · rw [new]
    show (-1 : Int32) ≠ userid
    rintro rfl
    exact absurd person (by decide)
  · exact offline iter old

/-- One event: the invariant is kept and no mailbox loses anything. -/
theorem step_forwards (world : World) (event : Event) :
    Guarded Settled Forwards world (step env world event).1 (step env world event).2 := by
  intro settled
  rw [step]
  split_ifs with up
  · cases event with
    | connect conn junkTarget =>
        exact ⟨settled_of_fewer world _ rfl (fun userid => offline_connect conn junkTarget userid
          world) settled, forwards_plain _ _ _ (fun _ member => by simp [serve] at member) rfl⟩
    | disconnect conn =>
        exact ⟨settled_of_fewer world _ rfl (fun userid _ offline iter member =>
          offline iter (List.mem_filter.mp member).1) settled,
          forwards_plain _ _ _ (fun _ member => by simp [serve] at member) rfl⟩
    | frame conn msgbuff mem garbage =>
        rw [serve]
        split
        · exact ⟨settled, forwards_composable.nothing world⟩
        · next me _ =>
          obtain ⟨after, forwards⟩ := process_forwards env me conn mem garbage msgbuff world settled
          rw [finish]
          split
          · exact ⟨after, forwards⟩
          · exact ⟨settled_of_fewer _ _ rfl (fun _ _ offline => offline) after, forwards⟩
  · exact ⟨settled, forwards_composable.nothing world⟩

/-- Along every run, for every user id that only a login can give to a session:
what was accepted for it is what was delivered to it, in order, followed by
what is still cached for it, and while it is online nothing is cached for it. -/
theorem messages_conserved (database : Database) (answers : Nat → Bool) (asked : Nat)
    (events : List Event) (userid : Int32) (person : 0 ≤ userid) :
    let trace := (run (step env) (boot env database answers asked) events).1
    let world := (run (step env) (boot env database answers asked) events).2
    let direct := mailOf .chat userid isDirect
    let notices := mailOf .notify userid isFriendNotice
    direct.acceptedIn trace = direct.deliveredIn trace ++ direct.queue world ∧
    notices.acceptedIn trace = notices.deliveredIn trace ++ notices.queue world ∧
    ((∃ iter ∈ world.m_mapclient.entries, iter.2.userID = userid) →
      (∀ entry ∈ world.cache.m_listChatMsgCache, entry.userid ≠ userid) ∧
      ∀ entry ∈ world.cache.m_listNotifyMsgCache, entry.userid ≠ userid) := by
  intro trace world direct notices
  have start : Settled (boot env database answers asked) :=
    fun _ _ => Or.inl fun iter member => by cases member
  obtain ⟨settled, forwards⟩ := run_keeps (step env)
    (guarded_composable Settled forwards_composable) (step_forwards env)
    (boot env database answers asked) events start
  refine ⟨forwards .chat userid isDirect person, forwards .notify userid isFriendNotice person, ?_⟩
  rintro ⟨iter, member, same⟩
  rcases settled userid person with offline | empty
  · exact absurd same (offline iter member)
  · exact ⟨empty .chat, empty .notify⟩

/-- User `b` gets a message and a friend request while away, logs in, and gets
another message. -/
def sampleRun : List Event :=
  [.connect [1] 0, sampleFrame [1] .register 1 (requestText (registers "a" "p")),
    sampleFrame [1] .register 2 (requestText (registers "b" "q")),
    sampleFrame [1] .login 3 (requestText (logsIn "a" "p")),
    sampleFrame [1] .chat 4 (text "hi") (encodeInt 2),
    sampleFrame [1] .operatefriend 5 (requestText (befriends 2)),
    .connect [2] 0, sampleFrame [2] .login 1 (requestText (logsIn "b" "q")),
    sampleFrame [1] .chat 6 (text "again") (encodeInt 2)]

theorem messages_conserved_relogin :
    let outcome := run (step sampleEnv) (boot sampleEnv {} (fun _ => true) 0) sampleRun
    let direct := mailOf .chat 2 isDirect
    let notices := mailOf .notify 2 isFriendNotice
    (0 : Int32) ≤ 2 ∧
    direct.acceptedIn outcome.1 = [⟨.direct, 4, 1, text "hi"⟩, ⟨.direct, 6, 1, text "again"⟩] ∧
    (notices.acceptedIn outcome.1).length = 1 ∧
    direct.acceptedIn outcome.1 = direct.deliveredIn outcome.1 ++ direct.queue outcome.2 ∧
    notices.acceptedIn outcome.1 = notices.deliveredIn outcome.1 ++ notices.queue outcome.2 := by
  have conserved := messages_conserved sampleEnv {} (fun _ => true) 0 sampleRun 2 (by decide)
  exact ⟨by decide, by decide +kernel, by decide +kernel, conserved.1, conserved.2.1⟩

end Runs

end EdoyumIM.Delivery
