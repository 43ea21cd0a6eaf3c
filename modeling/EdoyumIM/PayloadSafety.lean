import EdoyumIM.HandlerSteps

/-!
Payloads that bring the server down. Every handler that takes a JSON text asks
for the members of its root, and the library throws when the root is neither
null nor an object; the loop of OnMultiChatResponse throws at the first target
that is no integer, behind the deliveries to those before it. Nothing catches.
-/

namespace EdoyumIM.PayloadSafety

open MachineWords FieldCodec JsonValue OrderedStore Effects UserStore ChatWorld ChatServer
open HandlerSteps
open SessionFraming (send)

/-! Members of a root. -/
section Roots

/-- The values that may be asked for a member. -/
def Indexable : Json → Prop
  | .null | .object _ => True
  | _ => False

theorem member_ok (root : Json) (key : String) (indexable : Indexable root) :
    ∃ value, root.member key = .ok value := by
  cases root with
  | null => exact ⟨.null, rfl⟩
  | object members => exact ⟨_, rfl⟩
  | _ => cases indexable

theorem member_error (root : Json) (key : String) (other : ¬ Indexable root) :
    root.member key = .error .jsonLogicError := by
  cases root with
  | null => exact absurd trivial other
  | object members => exact absurd trivial other
  | _ => rfl

theorem stringAt_ok (root : Json) (key : String) (indexable : Indexable root) :
    ∃ value, root.stringAt key = .ok value := by
  obtain ⟨value, found⟩ := member_ok root key indexable
  exact ⟨value.string?, by rw [Json.stringAt, found]; rfl⟩

theorem intAt_ok (root : Json) (key : String) (indexable : Indexable root) :
    ∃ value, root.intAt key = .ok value := by
  obtain ⟨value, found⟩ := member_ok root key indexable
  exact ⟨value.int?, by rw [Json.intAt, found]; rfl⟩

theorem stringAt_error (root : Json) (key : String) (other : ¬ Indexable root) :
    root.stringAt key = .error .jsonLogicError := by
  rw [Json.stringAt, member_error root key other]
  rfl

theorem intAt_error (root : Json) (key : String) (other : ¬ Indexable root) :
    root.intAt key = .error .jsonLogicError := by
  rw [Json.intAt, member_error root key other]
  rfl

theorem ok_bind {α β : Type} {first : Except Fault α} {next : α → Except Fault β}
    (head : ∃ value, first = .ok value) (tail : ∀ value, ∃ last, next value = .ok last) :
    ∃ last, (first >>= next) = .ok last := by
  obtain ⟨value, rfl⟩ := head
  exact tail value

variable {σ ω α : Type}

theorem returns_string (root : Json) (key : String) (indexable : Indexable root)
    {next : Option Bytes → Act σ ω Fault α} (tail : ∀ value, Returns (next value)) :
    Returns (Act.lift (root.stringAt key) >>= next) := by
  obtain ⟨value, found⟩ := stringAt_ok root key indexable
  rw [found, Act.lift_ok_bind]
  exact tail value

theorem returns_int (root : Json) (key : String) (indexable : Indexable root)
    {next : Option Int32 → Act σ ω Fault α} (tail : ∀ value, Returns (next value)) :
    Returns (Act.lift (root.intAt key) >>= next) := by
  obtain ⟨value, found⟩ := intAt_ok root key indexable
  rw [found, Act.lift_ok_bind]
  exact tail value

theorem throws_string (root : Json) (key : String) (other : ¬ Indexable root)
    (next : Option Bytes → Act σ ω Fault α) :
    Throws (Act.lift (root.stringAt key) >>= next) := by
  rw [stringAt_error root key other, Act.lift_error_bind]
  exact throws_lift _

theorem throws_int (root : Json) (key : String) (other : ¬ Indexable root)
    (next : Option Int32 → Act σ ω Fault α) : Throws (Act.lift (root.intAt key) >>= next) := by
  rw [intAt_error root key other, Act.lift_error_bind]
  exact throws_lift _

/-- The text is read, or refused, and its root may be asked for members. -/
def Root (env : Env) (json : Bytes) : Prop :=
  ∃ document, env.parse json = .ok document ∧ ∀ root ∈ document, Indexable root

/-- A handler that first reads a text: it returns exactly if the text is read and
its root may be asked for members. -/
theorem reads_iff (env : Env) (json : Bytes) {next : Option Json → Act σ ω Fault α}
    (refused : Returns (next none)) (good : ∀ root, Indexable root → Returns (next (some root)))
    (bad : ∀ root, ¬ Indexable root → Throws (next (some root))) (state : σ) :
    (∃ value, ((Act.lift (env.parse json) >>= next) state).value = .ok value) ↔
      Root env json := by
  rw [Root]
  cases parsed : env.parse json with
  | error fault => simp
  | ok document =>
  rw [Act.lift_ok_bind]
  cases document with
  | none => exact iff_of_true (refused state) ⟨none, rfl, nofun⟩
  | some root =>
      by_cases indexable : Indexable root
      · refine iff_of_true (good root indexable state) ⟨some root, rfl, ?_⟩
        intro other member
        exact Option.mem_some_iff.mp member ▸ indexable
      · obtain ⟨fault, thrown⟩ := bad root indexable state
        refine iff_of_false ?_ ?_
        · rintro ⟨value, returned⟩
          rw [thrown] at returned
          cases returned
        · rintro ⟨document, same, holds⟩
          cases same
          exact indexable (holds root rfl)

end Roots

/-! The handlers. -/
section Handlers

variable (env : Env) (me : ClientSession) (conn data : Bytes)

theorem returns_answer (kind : MsgType) (response : Json) :
    Returns (answer env me conn kind response) := fun _ => ⟨(), rfl⟩

theorem returns_look {α : Type} (question : Store → α) : Returns (look question) :=
  fun _ => ⟨_, rfl⟩

theorem returns_ask {α : Type} (operation : Bool → Store → α × Store) : Returns (ask operation) :=
  fun _ => ⟨_, rfl⟩

theorem returns_deliver (channel : Channel) (target : Int32) (item : Item) (writer : BinaryWriter)
    (cached : Bytes) : Returns (deliver channel target item writer cached) := by
  intro world
  cases found : world.addressOf target with
  | none => exact ⟨writer, by rw [deliver_offline _ _ _ _ _ world found]⟩
  | some peer => exact ⟨(send writer).2, by rw [deliver_online _ _ _ _ _ world peer found]⟩

theorem returns_replay (channel : Channel) (userid : Int32) : Returns (replay conn channel userid) :=
  fun world => ⟨(), by rw [replay_outcome]⟩

theorem returns_tellFriends (owner userid type : Int32) :
    Returns (tellFriends env owner userid type) := by
  refine returns_bind (returns_look _) fun friends => returns_forM fun iter _ => ?_
  refine returns_bind (returns_gets _) fun found => ?_
  cases found with
  | none => exact returns_pure ()
  | some peer => exact fun _ => ⟨(), rfl⟩

theorem register_iff (world : World) :
    (∃ value, (onRegisterResponse env me conn data world).value = .ok value) ↔ Root env data := by
  apply reads_iff env data
  · exact returns_answer env me conn _ _
  · intro root indexable
    refine returns_string root _ indexable fun username =>
      returns_string root _ indexable fun nickname =>
        returns_string root _ indexable fun password => ?_
    split
    · refine returns_bind (returns_ask _) fun added => ?_
      cases added with
      | none => exact returns_answer env me conn _ _
      | some user => exact returns_answer env me conn _ _
    · exact returns_answer env me conn _ _
  · exact fun root other => throws_string root _ other _

theorem returns_logIn (username password : Bytes) (user : User) :
    Returns (logIn env me conn username password user) := by
  refine returns_bind (fun _ => ⟨(), rfl⟩) fun _ => returns_bind (returns_answer env me conn _ _)
    fun _ => returns_bind (returns_replay conn _ _) fun _ =>
      returns_bind (returns_replay conn _ _) fun _ => returns_tellFriends env _ _ _

theorem loginFields_ok (root : Json) (indexable : Indexable root) :
    ∃ fields, loginFields root = .ok fields := by
  refine ok_bind (stringAt_ok root _ indexable) fun username =>
    ok_bind (stringAt_ok root _ indexable) fun password =>
      ok_bind (intAt_ok root _ indexable) fun clienttype =>
        ok_bind (intAt_ok root _ indexable) fun status => ?_
  split
  · exact ⟨_, rfl⟩
  · exact ⟨_, rfl⟩

theorem login_iff (world : World) :
    (∃ value, (onLoginResponse env me conn data world).value = .ok value) ↔ Root env data := by
  apply reads_iff env data
  · exact returns_answer env me conn _ _
  · intro root indexable
    obtain ⟨fields, checked⟩ := loginFields_ok root indexable
    dsimp only
    rw [checked, Act.lift_ok_bind]
    cases fields with
    | none => exact returns_answer env me conn _ _
    | some pair =>
        refine returns_bind (returns_look _) fun found => ?_
        cases found with
        | none => exact returns_answer env me conn _ _
        | some user =>
            dsimp only
            split_ifs
            · exact returns_answer env me conn _ _
            · exact returns_logIn env me conn _ _ user
  · intro root other
    dsimp only
    rw [loginFields, stringAt_error root _ other]
    exact throws_lift _

theorem findUser_iff (world : World) :
    (∃ value, (onFindUserResponse env me conn data world).value = .ok value) ↔ Root env data := by
  apply reads_iff env data
  · exact returns_pure ()
  · intro root indexable
    refine returns_int root _ indexable fun type => returns_string root _ indexable fun name => ?_
    split
    · refine returns_bind (returns_look _) fun found => ?_
      cases found with
      | none => exact returns_answer env me conn _ _
      | some user => exact returns_answer env me conn _ _
    · exact returns_pure ()
  · exact fun root other => throws_int root _ other _

theorem returns_deleteFriend (friendid : Int32) : Returns (deleteFriend env me conn friendid) := by
  refine returns_bind (returns_ask _) fun released => ?_
  split
  · refine returns_bind (returns_look _) fun found => ?_
    cases found with
    | none => exact returns_pure ()
    | some cachedUser =>
        refine returns_bind (returns_answer env me conn _ _) fun _ => ?_
        split
        · refine returns_bind (returns_gets _) fun online => ?_
          cases online with
          | none => exact returns_pure ()
          | some peer => exact fun _ => ⟨(), rfl⟩
        · exact returns_tellFriends env _ _ _
  · exact returns_pure ()

theorem returns_addGroup (groupid : Int32) : Returns (onAddGroupResponse env me conn groupid) := by
  refine returns_bind (returns_ask _) fun made => ?_
  split
  · refine returns_bind (returns_look _) fun found => ?_
    cases found with
    | none => exact returns_pure ()
    | some groupUser =>
        exact returns_bind (returns_answer env me conn _ _) fun _ => returns_tellFriends env _ _ _
  · exact returns_pure ()

theorem returns_notify (type target : Int32) (root : Json) :
    Returns (notifyTarget env me type target root) :=
  returns_bind (returns_deliver _ _ _ _ _) fun _ => returns_pure ()

theorem returns_acceptFriend (root : Json) (target : Int32) (indexable : Indexable root) :
    Returns (acceptFriend env me conn root target) := by
  refine returns_int root _ indexable fun accept => ?_
  cases accept with
  | none => exact returns_pure ()
  | some accept =>
      refine returns_bind ?_ fun made => ?_
      · dsimp only [relateAccepted]
        split
        · exact returns_ask _
        · exact returns_pure true
      · split
        · refine returns_bind (returns_look _) fun found => ?_
          cases found with
          | none => exact returns_pure ()
          | some targetUser =>
              exact returns_bind (returns_answer env me conn _ _) fun _ =>
                returns_notify env me _ _ _
        · exact returns_pure ()

theorem operateFriend_iff (world : World) :
    (∃ value, (onOperateFriendResponse env me conn data world).value = .ok value) ↔
      Root env data := by
  apply reads_iff env data
  · exact returns_pure ()
  · intro root indexable
    refine returns_int root _ indexable fun type => returns_int root _ indexable fun userid => ?_
    split
    · next type target =>
      split_ifs
      · exact returns_deleteFriend env me conn target
      · exact returns_addGroup env me conn target
      · exact returns_deleteFriend env me conn target
      · exact returns_notify env me _ _ _
      · exact returns_acceptFriend env me conn root target indexable
      · exact returns_notify env me _ _ _
    · exact returns_pure ()
  · exact fun root other => throws_int root _ other _

theorem newUserInfo_ok (root : Json) (indexable : Indexable root) :
    ∃ info, newUserInfo root = .ok info := by
  have string (key : String) := stringAt_ok root key indexable
  have int (key : String) := intAt_ok root key indexable
  refine ok_bind (string _) fun nickname => ok_bind (int _) fun facetype =>
    ok_bind (string _) fun customface => ok_bind (int _) fun gender => ok_bind (int _) fun birthday =>
      ok_bind (string _) fun signature => ok_bind (string _) fun address =>
        ok_bind (string _) fun phonenumber => ok_bind (string _) fun mail => ?_
  split
  · exact ⟨_, rfl⟩
  · exact ⟨_, rfl⟩

theorem updateUserInfo_iff (world : World) :
    (∃ value, (onUpdateUserInfoResponse env me conn data world).value = .ok value) ↔
      Root env data := by
  apply reads_iff env data
  · exact returns_pure ()
  · intro root indexable
    obtain ⟨info, checked⟩ := newUserInfo_ok root indexable
    dsimp only
    rw [checked, Act.lift_ok_bind]
    cases info with
    | none => exact returns_pure ()
    | some newuserinfo =>
        refine returns_bind (returns_ask _) fun updated => ?_
        split
        · exact returns_bind (returns_answer env me conn _ _) fun _ => returns_tellFriends env _ _ _
        · exact returns_bind (returns_answer env me conn _ _) fun _ => returns_tellFriends env _ _ _
  · intro root other
    dsimp only
    rw [newUserInfo, stringAt_error root _ other]
    exact throws_lift _

theorem modifyPassword_iff (world : World) :
    (∃ value, (onModifyPasswordResponse env me conn data world).value = .ok value) ↔
      Root env data := by
  apply reads_iff env data
  · exact returns_pure ()
  · intro root indexable
    refine returns_string root _ indexable fun oldpass =>
      returns_string root _ indexable fun newPass => ?_
    split
    · refine returns_bind (returns_look _) fun found => ?_
      cases found with
      | none => exact returns_pure ()
      | some cachedUser =>
          dsimp only
          split
          · exact returns_answer env me conn _ _
          · refine returns_bind (returns_ask _) fun modified => ?_
            split
            · exact returns_answer env me conn _ _
            · exact returns_answer env me conn _ _
    · exact returns_pure ()
  · exact fun root other => throws_string root _ other _

theorem createGroup_iff (garbage : Int32) (world : World) :
    (∃ value, (onCreateGroupResponse env me conn data garbage world).value = .ok value) ↔
      Root env data := by
  apply reads_iff env data
  · exact returns_pure ()
  · intro root indexable
    refine returns_string root _ indexable fun groupname => ?_
    cases groupname with
    | none => exact returns_pure ()
    | some groupname =>
        refine returns_bind (returns_ask _) fun created => returns_bind (returns_ask _) fun made => ?_
        split
        · exact returns_bind (returns_answer env me conn _ _) fun _ => returns_answer env me conn _ _
        · exact returns_pure ()
  · exact fun root other => throws_string root _ other _

theorem getGroupMember_iff (world : World) :
    (∃ value, (onGetGroupMemberResponse env me conn data world).value = .ok value) ↔
      Root env data := by
  apply reads_iff env data
  · exact returns_pure ()
  · intro root indexable
    refine returns_int root _ indexable fun groupid => ?_
    cases groupid with
    | none => exact returns_pure ()
    | some groupid =>
        exact returns_bind (returns_gets _) fun members => returns_answer env me conn _ _
  · exact fun root other => throws_int root _ other _

theorem returns_chat : Returns (onChatResponse me data) := by
  refine returns_bind (returns_ask _) fun _ => ?_
  split
  · exact returns_bind (returns_deliver _ _ _ _ _) fun _ => returns_pure ()
  · refine returns_bind (returns_look _) fun friends => returns_bind ?_ fun _ => returns_pure ()
    exact returns_foldlM _ fun writer iter => returns_deliver _ _ _ _ _

/-- If the targets are an array, they are integers. -/
def IntTargets (json : Bytes) : Prop :=
  ∀ root items, env.parse json = .ok (some root) → root.member "targets" = .ok (.array items) →
    ∀ item ∈ items, ∃ target, item.asInt = .ok target

/-- One round of the loop of OnMultiChatResponse. -/
def chatWith (item : Json) : Handler PUnit := do
  let target ← Act.lift item.asInt
  Act.modify (World.modifySession conn fun session => { session with m_target := target })
  onChatResponse { me with m_target := target } data

theorem returns_chatWith (item : Json) (target : Int32) (int : item.asInt = .ok target) :
    Returns (chatWith me conn data item) := by
  rw [chatWith, int, Act.lift_ok_bind]
  exact returns_bind (fun _ => ⟨(), rfl⟩) fun _ => returns_chat _ data

theorem throws_chatWith (item : Json) (other : ¬ ∃ target, item.asInt = .ok target) :
    Throws (chatWith me conn data item) := by
  cases int : item.asInt with
  | ok target => exact absurd ⟨target, int⟩ other
  | error fault =>
      rw [chatWith, int, Act.lift_error_bind]
      exact throws_lift fault

theorem multiChat_iff (world : World) :
    (∃ value, (onMultiChatResponse env me conn data world).value = .ok value) ↔
      Root env me.m_targets ∧ IntTargets env me.m_targets := by
  have parsing : IntTargets env me.m_targets ↔ ∀ root, env.parse me.m_targets = .ok (some root) →
      ∀ items, root.member "targets" = .ok (.array items) →
        ∀ item ∈ items, ∃ target, item.asInt = .ok target := by
    exact ⟨fun ints root parsed items => ints root items parsed,
      fun ints root items parsed => ints root parsed items⟩
  rw [parsing, Root, onMultiChatResponse]
  cases parsed : env.parse me.m_targets with
  | error fault => simp
  | ok document =>
  rw [Act.lift_ok_bind]
  cases document with
  | none => simp
  | some root =>
  simp only [Except.ok.injEq, Option.some.injEq, forall_eq', exists_eq_left', Option.mem_some_iff]
  by_cases indexable : Indexable root
  · obtain ⟨value, found⟩ := member_ok root "targets" indexable
    rw [and_iff_right indexable, found]
    cases value with
    | array items =>
        simp only [Except.ok.injEq, Json.array.injEq, forall_eq']
        by_cases ints : ∀ item ∈ items, ∃ target, item.asInt = .ok target
        · refine iff_of_true ?_ ints
          refine returns_forM (fun item member => ?_) world
          obtain ⟨target, int⟩ := ints item member
          exact returns_chatWith me conn data item target int
        · refine iff_of_false ?_ ints
          obtain ⟨item, member, other⟩ : ∃ item ∈ items, ¬ ∃ target, item.asInt = .ok target := by
            simpa using ints
          obtain ⟨fault, thrown⟩ := throws_forM item member
            (throws_chatWith me conn data item other) world
          rintro ⟨value, returned⟩
          exact absurd (returned.symm.trans thrown) nofun
    | _ => exact iff_of_true ⟨(), rfl⟩ nofun
  · rw [member_error root _ indexable]
    exact iff_of_false nofun fun both => indexable both.1

end Handlers

/-! Whole frames. -/
section Frames

variable (env : Env) (me : ClientSession) (conn : Bytes) (mem : Nat → UInt8) (garbage : Int32)

/-- The commands whose handler reads its data as JSON. -/
def readsJson : MsgType → Bool
  | .register | .login | .finduser | .operatefriend | .updateuserinfo | .modifypassword
  | .creategroup | .getgroupmembers => true
  | _ => false

def targetsText (rest : BinaryReader) : Option Bytes :=
  (rest.readString mem).toOption.map Prod.fst

structure Acceptable (cmd : Int32) (data : Bytes) (rest : BinaryReader) : Prop where
  data : ∀ kind, MsgType.ofCode cmd = some kind → readsJson kind = true → Root env data
  targets : MsgType.ofCode cmd = some .multichat → ∀ json ∈ targetsText mem rest,
    Root env json ∧ IntTargets env json

theorem request_iff (cmd : Int32) (data : Bytes) (rest : BinaryReader) (world : World)
    (whole : MsgType.ofCode cmd = some .multichat → (targetsText mem rest).isSome) :
    (∃ value, (request env me conn mem garbage cmd rest data world).value = .ok value) ↔
      Acceptable env mem cmd data rest := by
  have reads (kind : MsgType) (code : MsgType.ofCode cmd = some kind)
      (json : readsJson kind = true) : Acceptable env mem cmd data rest ↔ Root env data := by
    constructor
    · exact fun acceptable => acceptable.data kind code json
    · refine fun root => ⟨fun _ _ _ => root, fun multi => ?_⟩
      obtain rfl := Option.some.inj (code.symm.trans multi)
      cases json
  have skips (code : ∀ kind, MsgType.ofCode cmd = some kind →
      readsJson kind = false ∧ kind ≠ .multichat) : Acceptable env mem cmd data rest := by
    constructor
    · intro kind same json
      rw [(code kind same).1] at json
      cases json
    · exact fun multi => absurd rfl (code _ multi).2
  rw [request]
  cases code : MsgType.ofCode cmd with
  | none => exact iff_of_true ⟨(), rfl⟩ (skips fun kind same => by rw [code] at same; cases same)
  | some kind =>
      have only (plain : readsJson kind = false ∧ kind ≠ .multichat) :
          Acceptable env mem cmd data rest := skips fun other same => by
        obtain rfl := Option.some.inj (code.symm.trans same)
        exact plain
      cases kind with
      | register => exact (register_iff env me conn data world).trans (reads _ code rfl).symm
      | login => exact (login_iff env me conn data world).trans (reads _ code rfl).symm
      | finduser => exact (findUser_iff env me conn data world).trans (reads _ code rfl).symm
      | operatefriend =>
          exact (operateFriend_iff env me conn data world).trans (reads _ code rfl).symm
      | updateuserinfo =>
          exact (updateUserInfo_iff env me conn data world).trans (reads _ code rfl).symm
      | modifypassword =>
          exact (modifyPassword_iff env me conn data world).trans (reads _ code rfl).symm
      | creategroup =>
          exact (createGroup_iff env me conn data garbage world).trans (reads _ code rfl).symm
      | getgroupmembers =>
          exact (getGroupMember_iff env me conn data world).trans (reads _ code rfl).symm
      | headerbeart => exact iff_of_true ⟨(), rfl⟩ (only ⟨rfl, by decide⟩)
      | getofriendlist => exact iff_of_true ⟨(), rfl⟩ (only ⟨rfl, by decide⟩)
      | userstatuschange => exact iff_of_true ⟨(), rfl⟩ (only ⟨rfl, by decide⟩)
      | chat =>
          refine iff_of_true ?_ (only ⟨rfl, by decide⟩)
          dsimp only [chatRequest]
          cases rest.readInt with
          | none => exact returns_chat me data world
          | some target =>
              exact returns_bind (fun _ => ⟨(), rfl⟩) (fun _ => returns_chat _ data) world
      | multichat =>
          obtain ⟨targets, decoded⟩ := Option.isSome_iff_exists.mp (whole code)
          have accepts : Acceptable env mem cmd data rest ↔
              Root env targets ∧ IntTargets env targets := by
            constructor
            · exact fun acceptable => acceptable.targets code targets decoded
            · intro both
              constructor
              · intro kind same json
                obtain rfl := Option.some.inj (code.symm.trans same)
                cases json
              · intro _ json found
                obtain rfl := Option.some.inj (decoded.symm.trans found)
                exact both
          rw [targetsText] at decoded
          cases read : rest.readString mem with
          | error fault => simp [read, Except.toOption] at decoded
          | ok parts =>
              obtain ⟨json, more⟩ := parts
              obtain rfl : json = targets := by simpa [read, Except.toOption] using decoded
              rw [accepts, multiChatRequest, read, Act.lift_ok_bind]
              exact multiChat_iff env { me with m_targets := json } conn data _

/-- The frame is handled without an exception, and a multichat request that has
to be refused has delivered to nobody. -/
structure Survives (msgbuff : Bytes) (cmd : Int32) (rest : BinaryReader) (world : World) : Prop where
  returns : ∃ answered, (process env me conn mem garbage msgbuff world).value = .ok answered
  undelivered : MsgType.ofCode cmd = some .multichat → ∀ json ∈ targetsText mem rest,
    ¬ (Root env json ∧ IntTargets env json) → ∀ channel target item,
      .accept channel target item ∉ (process env me conn mem garbage msgbuff world).trace

/-- For every session state, command, data and targets string: the frame does no
harm if and only if the texts it is read for are parsed without an exception,
have a root that is null or an object, and name only integers as targets. -/
theorem process_survives_iff (msgbuff : Bytes) (cmd m_seq : Int32) (data : Bytes)
    (rest : BinaryReader) (world : World)
    (decoded : decodeFrame mem msgbuff = some (cmd, m_seq, data, rest))
    (whole : MsgType.ofCode cmd = some .multichat → (targetsText mem rest).isSome) :
    Survives env me conn mem garbage msgbuff cmd rest world ↔ Acceptable env mem cmd data rest := by
  let sequenced : ClientSession := { me with m_seq := m_seq }
  let read := world.modifySession conn fun session => { session with m_seq := m_seq }
  have handled := request_iff env sequenced conn mem garbage cmd data rest read whole
  have value : (process env me conn mem garbage msgbuff world).value =
      (request env sequenced conn mem garbage cmd rest data read).value.map fun _ => true := by
    rw [process_decoded env me conn mem garbage msgbuff cmd m_seq data rest decoded,
      Act.bind_ok _ _ _ () rfl]
    exact (Act.bind_pure_map _ (fun _ => true) read).2.2
  rw [← handled]
  constructor
  · rintro ⟨⟨answered, returned⟩, -⟩
    rw [value] at returned
    cases outcome : (request env sequenced conn mem garbage cmd rest data read).value with
    | error fault => simp [outcome, Except.map] at returned
    | ok result => exact ⟨result, rfl⟩
  · rintro ⟨result, returned⟩
    have acceptable := handled.mp ⟨result, returned⟩
    constructor
    · exact ⟨true, by rw [value, returned]; rfl⟩
    · intro multi json found refused
      exact absurd (acceptable.targets multi json found) refused

end Frames

/-! An environment whose parser knows a few texts that are no request: an empty
array, and a list of targets with a string in it. -/
section Sample

def mixedTargets : Bytes := text "\x7b\"targets\":[1,\"x\"]\x7d"

def intTargets : Bytes := text "\x7b\"targets\":[1,2]\x7d"

def targetList (items : List Json) : Json := .object [(text "targets", .array items)]

def oddEnv : Env where
  parse data := .ok
    (if data = intTargets then some (targetList [.int 1, .int 2])
    else if data = mixedTargets then some (targetList [.int 1, .string (text "x")])
    else if data = text "[]" then some (.array [])
    else none)
  toStyledString := styledText
  emptyData := true

def oneSession : World :=
  (step oddEnv (boot oddEnv {} (fun _ => true) 0) (.connect [1] 0)).2

def multiFrame (targets : Bytes) : Bytes :=
  (((header .multichat 1).writeString (text "hi")).writeString targets).toBytes

theorem process_survives_iff_ints :
    ∃ cmd m_seq data rest,
      decodeFrame (fun _ => 0) (multiFrame intTargets) = some (cmd, m_seq, data, rest) ∧
      targetsText (fun _ => 0) rest = some intTargets ∧
      Survives oddEnv { m_target := 0 } [1] (fun _ => 0) 0 (multiFrame intTargets) cmd rest
        oneSession := by
  have present : (decodeFrame (fun _ => 0) (multiFrame intTargets)).map (fun parts =>
      (MsgType.ofCode parts.1, targetsText (fun _ => 0) parts.2.2.2)) =
      some (some .multichat, some intTargets) := by decide +kernel
  obtain ⟨⟨cmd, m_seq, data, rest⟩, decoded, facts⟩ := Option.map_eq_some_iff.mp present
  obtain ⟨kind, targets⟩ := Prod.mk.inj facts
  refine ⟨cmd, m_seq, data, rest, decoded, targets, ?_⟩
  refine (process_survives_iff oddEnv { m_target := 0 } [1] (fun _ => 0) 0 (multiFrame intTargets)
    cmd m_seq data rest oneSession decoded fun _ => by rw [targets]; rfl).mpr ⟨?_, ?_⟩
  · intro other same json
    obtain rfl := Option.some.inj (kind.symm.trans same)
    cases json
  · intro _ json found
    obtain rfl := Option.some.inj (targets.symm.trans found)
    have parsed : oddEnv.parse intTargets = .ok (some (targetList [.int 1, .int 2])) :=
      congrArg Except.ok (if_pos rfl)
    constructor
    · refine ⟨_, parsed, fun root member => ?_⟩
      exact Option.mem_some_iff.mp member ▸ trivial
    · intro root items same found
      obtain rfl := Option.some.inj (Except.ok.inj (parsed.symm.trans same))
      have listed : (targetList [.int 1, .int 2]).member "targets" =
          .ok (.array [.int 1, .int 2]) := rfl
      obtain rfl := Json.array.inj (Except.ok.inj (listed.symm.trans found))
      simp [Json.asInt, Json.isInt]

/-- A login whose data is an empty array, and a multichat with a string among its
targets: both throw, the second one behind its first delivery. -/
theorem payloads_throw :
    let login := ((header .login 1).writeString (text "[]")).toBytes
    let outcome (msgbuff : Bytes) :=
      process oddEnv { m_target := 0 } [1] (fun _ => 0) 0 msgbuff oneSession
    (outcome login).value = .error .jsonLogicError ∧
    (outcome (multiFrame mixedTargets)).value = .error .jsonLogicError ∧
    (∃ item, .accept .chat 1 item ∈ (outcome (multiFrame mixedTargets)).trace) ∧
    ∀ cmd rest,
      ¬ Survives oddEnv { m_target := 0 } [1] (fun _ => 0) 0 login cmd rest oneSession := by
  intro login outcome
  have thrown : (outcome login).value = .error .jsonLogicError := by decide +kernel
  refine ⟨thrown, by decide +kernel, ⟨⟨.direct, 1, -1, text "hi"⟩, by decide +kernel⟩, ?_⟩
  intro cmd rest survives
  obtain ⟨answered, returned⟩ := survives.returns
  exact absurd (returned.symm.trans thrown) nofun

end Sample

end EdoyumIM.PayloadSafety
