import EdoyumIM.SenderIdentity

/-!
Which session the server takes for a user. `GetSessionByID` and
`IsUserSessionExsit` look for the first session, in the order of the connection
names, that holds the id; every session is in the map from the moment it
connects and holds `-1` until it logs in. The histories here note the last
successful login of every connection and are read off the run alone.
-/

namespace EdoyumIM.SessionLookup

open MachineWords FieldCodec JsonValue OrderedStore Effects UserStore ChatWorld ChatServer
open HandlerSteps SenderIdentity
open SessionFraming (send)

section Histories

variable (env : Env)

/-- The connection and the user of a successful login. -/
def loginOf (world : World) : Event → Option (Bytes × Int32)
  | .frame conn msgbuff mem _ =>
      if world.up ∧ (world.m_mapclient.find? conn).isSome then
        match loginData mem msgbuff with
        | none => none
        | some data =>
            (loginMatches env data world.store).map fun granted => (conn, granted.2.2.userid)
      else none
  | _ => none

def noteLogin (world : World) (last : Bytes → Option Int32) (event : Event) :
    Bytes → Option Int32 :=
  match loginOf env world event with
  | some (conn, userid) => Function.update last conn (some userid)
  | none =>
      match event with
      | .disconnect conn => if world.up then Function.update last conn none else last
      | _ => last

def lastLogins : World → (Bytes → Option Int32) → List Event → Bytes → Option Int32
  | _, last, [] => last
  | world, last, event :: rest =>
      lastLogins (step env world event).2 (noteLogin env world last event) rest

theorem identify_noteLogin (world : World) (last : Bytes → Option Int32) (event : Event) :
    identify env world (fun conn => (last conn).getD (-1)) event =
      fun conn => (noteLogin env world last event conn).getD (-1) := by
  funext other
  cases event with
  | connect conn junkTarget => rfl
  | disconnect conn =>
      by_cases up : world.up
      · by_cases here : other = conn <;> simp [identify, noteLogin, loginOf, up, here]
      · simp [identify, noteLogin, loginOf, up]
  | frame conn msgbuff mem garbage =>
      by_cases open' : world.up ∧ (world.m_mapclient.find? conn).isSome
      · simp only [identify, noteLogin, loginOf, if_pos open']
        cases loginData mem msgbuff with
        | none => rfl
        | some data =>
            dsimp only
            cases loginMatches env data world.store with
            | none => rfl
            | some granted => by_cases here : other = conn <;> simp [here]
      · simp only [identify, noteLogin, loginOf, if_neg open']

theorem identities_lastLogins (events : List Event) (world : World)
    (last : Bytes → Option Int32) :
    identities env world (fun conn => (last conn).getD (-1)) events =
      fun conn => (lastLogins env world last events conn).getD (-1) := by
  induction events generalizing world last with
  | nil => rfl
  | cons event rest ih => rw [identities, identify_noteLogin, ih, lastLogins]

end Histories

/-- For every run and every id the lookups only find sessions whose last login
was as that user exactly if the id is not `-1` or nobody is connected without a
login. -/
theorem lookup_sound_iff (env : Env) (database : Database) (answers : Nat → Bool) (asked : Nat)
    (events : List Event) (userid : Int32) :
    let start := boot env database answers asked
    let world := (run (step env) start events).2
    let last := lastLogins env start (fun _ => none) events
    (∀ conn session, world.m_mapclient.find? conn = some session →
      (world.getSessionByID userid = some (conn, session) ∨
        world.isUserSessionExsit userid = true ∧ session.userID = userid) →
      last conn = some userid) ↔
    (userid ≠ -1 ∨ ∀ conn, (world.m_mapclient.find? conn).isSome → (last conn).isSome) := by
  intro start world last
  have tracks : Tracks world fun conn => (last conn).getD (-1) := by
    rw [← identities_lastLogins env events start fun _ => none]
    exact run_tracks env events start _ fun conn => rfl
  have holds : ∀ conn session, world.m_mapclient.find? conn = some session →
      session.userID = (last conn).getD (-1) := by
    intro conn session found
    simpa [heldId, found] using tracks conn
  constructor
  · intro sound
    by_cases anonymous : userid = -1
    · right
      intro conn connected
      obtain ⟨session, found⟩ := Option.isSome_iff_exists.mp connected
      cases noted : last conn with
      | some other => rfl
      | none =>
          -- a connection without a login holds `-1`, so it is found for that id
          have held : session.userID = userid := by
            rw [holds conn session found, noted, anonymous]
            rfl
          have exists' : world.isUserSessionExsit userid = true :=
            List.any_eq_true.mpr ⟨(conn, session), OrderedMap.find?_mem _ _ _ found, by simp [held]⟩
          have claimed := sound conn session found (Or.inr ⟨exists', held⟩)
          rw [noted] at claimed
          cases claimed
    · exact Or.inl anonymous
  · rintro condition conn session found lookup
    have held : session.userID = userid := by
      rcases lookup with located | ⟨-, held⟩
      · simpa using List.find?_some located
      · exact held
    rw [holds conn session found] at held
    cases noted : last conn with
    | some other =>
        rw [noted] at held
        exact congrArg some held
    | none =>
        rw [noted] at held
        rcases condition with person | everybody
        · exact absurd held.symm person
        · have logged := everybody conn (by simp [found])
          rw [noted] at logged
          cases logged

/-- A connection that has sent nothing yet is the session of user `-1`. -/
theorem anonymous_found :
    let start := boot sampleEnv {} (fun _ => true) 0
    let world := (run (step sampleEnv) start [.connect [1] 0]).2
    let last := lastLogins sampleEnv start (fun _ => none) [.connect [1] 0]
    ¬ ∀ conn session, world.m_mapclient.find? conn = some session →
      (world.getSessionByID (-1) = some (conn, session) ∨
        world.isUserSessionExsit (-1) = true ∧ session.userID = -1) →
      last conn = some (-1) := by
  intro start world last sound
  have claimed := sound [1] { m_target := 0 } rfl (Or.inl rfl)
  cases claimed

/-! Where a direct chat goes. -/
section Routing

/-- The first session in the order of the connection names that holds the id. -/
def FirstHolder (world : World) (userid : Int32) (home : Bytes) : Prop :=
  ownerOf world home = some userid ∧
    ∀ other, ownerOf world other = some userid → home ≤ other

theorem firstHolder_congr (before after : World) (userid : Int32) (home : Bytes)
    (same : ∀ conn, ownerOf after conn = ownerOf before conn)
    (first : FirstHolder before userid home) : FirstHolder after userid home := by
  constructor
  · rw [same, first.1]
  · intro other holds
    rw [same] at holds
    exact first.2 other holds

theorem firstHolder_unique (world : World) (userid : Int32) (left right : Bytes)
    (one : FirstHolder world userid left) (other : FirstHolder world userid right) :
    left = right :=
  le_antisymm (one.2 right other.1) (other.2 left one.1)

theorem getSessionByID_first (world : World) (userid : Int32) (home : Bytes) :
    FirstHolder world userid home ↔
      ∃ session, world.getSessionByID userid = some (home, session) := by
  have held : ∀ entry ∈ world.m_mapclient.entries,
      ownerOf world entry.1 = some userid ↔ decide (entry.2.userID = userid) = true := by
    intro entry member
    rw [ownerOf, (OrderedMap.find?_iff entry.1 world.m_mapclient entry.2).mpr member]
    simp
  constructor
  · rintro ⟨holds, least⟩
    obtain ⟨session, found, same⟩ := Option.map_eq_some_iff.mp holds
    refine ⟨session, (OrderedMap.search_iff _ _ _).mpr ⟨?_, by simpa using same, ?_⟩⟩
    · exact OrderedMap.find?_mem home _ session found
    · intro other member hit
      exact least other.1 ((held other member).mpr hit)
  · rintro ⟨session, located⟩
    obtain ⟨member, hit, least⟩ := (OrderedMap.search_iff _ _ _).mp located
    constructor
    · exact (held (home, session) member).mpr hit
    · intro other holds
      obtain ⟨peer, found, same⟩ := Option.map_eq_some_iff.mp holds
      exact least (other, peer) (OrderedMap.find?_mem other _ peer found) (by simpa using same)

theorem addressOf_first (world : World) (userid : Int32) (home : Bytes)
    (first : FirstHolder world userid home) :
    ∃ m_seq, world.addressOf userid = some (home, m_seq) := by
  obtain ⟨session, located⟩ := (getSessionByID_first world userid home).mp first
  exact ⟨session.m_seq, by rw [World.addressOf, located]; rfl⟩

/-- Someone is the first of the sessions that hold an id, if one does. -/
theorem firstHolder_exists (world : World) (userid : Int32) (conn : Bytes)
    (holds : ownerOf world conn = some userid) : ∃ home, FirstHolder world userid home := by
  obtain ⟨session, found, held⟩ := Option.map_eq_some_iff.mp holds
  have hit : (world.getSessionByID userid).isSome :=
    List.find?_isSome.mpr ⟨(conn, session), OrderedMap.find?_mem _ _ _ found, by simpa using held⟩
  obtain ⟨⟨home, peer⟩, located⟩ := Option.isSome_iff_exists.mp hit
  exact ⟨home, (getSessionByID_first world userid home).mpr ⟨peer, located⟩⟩

/-- Every direct chat accepted for the user is sent on the connection at once. -/
def Routed (userid : Int32) (home : Bytes) (trace : List Label) : Prop :=
  ∀ earlier item later, trace = earlier ++ .accept .chat userid item :: later →
    item.stem = .direct →
    ∃ bytes rest, later = .send home bytes (.live .chat userid item) :: rest

theorem routed_append (userid : Int32) (home : Bytes) (first second : List Label)
    (one : Routed userid home first) (other : Routed userid home second) :
    Routed userid home (first ++ second) := by
  intro earlier item later split direct
  rcases List.append_eq_append_iff.mp split with ⟨middle, rfl, tail⟩ | ⟨middle, rfl, tail⟩
  · exact other middle item later tail direct
  · cases middle with
    | nil => exact other [] item later tail.symm direct
    | cons head middle =>
        obtain ⟨rfl, rfl⟩ := List.cons.inj tail
        obtain ⟨bytes, rest, rfl⟩ := one earlier item middle rfl direct
        exact ⟨bytes, rest ++ second, rfl⟩

theorem routed_sends (userid : Int32) (home : Bytes) (trace : List Label)
    (sends : ∀ label ∈ trace, ∃ conn bytes cause, label = .send conn bytes cause) :
    Routed userid home trace := by
  rintro earlier item later rfl
  obtain ⟨_, _, _, wrong⟩ := sends (.accept .chat userid item) (by simp)
  cases wrong

theorem deliver_routed (userid : Int32) (home : Bytes) (channel : Channel) (target : Int32)
    (item : Item) (writer : BinaryWriter) (cached : Bytes) (world : World)
    (first : FirstHolder world userid home) :
    Routed userid home (deliver channel target item writer cached world).trace := by
  by_cases mine : target = userid
  · subst mine
    obtain ⟨m_seq, found⟩ := addressOf_first world target home first
    rw [deliver_online _ _ _ _ _ world _ found]
    intro earlier other later split direct
    cases earlier with
    | nil =>
        obtain ⟨same, rfl⟩ := List.cons.inj split
        obtain ⟨rfl, -, rfl⟩ := Label.accept.inj same
        exact ⟨_, _, rfl⟩
    | cons head earlier =>
        obtain ⟨-, tail⟩ := List.cons.inj split
        cases earlier <;> simp at tail
  · intro earlier other later split direct
    have member : Label.accept .chat userid other ∈
        (deliver channel target item writer cached world).trace := by
      rw [split]
      simp
    cases found : world.addressOf target with
    | none =>
        rw [deliver_offline _ _ _ _ _ world found] at member
        obtain ⟨-, same, -⟩ := Label.accept.inj (List.mem_singleton.mp member)
        exact absurd same.symm mine
    | some peer =>
        rw [deliver_online _ _ _ _ _ world peer found] at member
        simp only [List.mem_cons, Label.accept.injEq, reduceCtorEq, List.not_mem_nil,
          or_false] at member
        exact absurd member.2.1.symm mine

def RoutedWhile (userid : Int32) (home : Bytes) : World → List Label → World → Prop :=
  Guarded (fun world => FirstHolder world userid home) fun _ trace _ => Routed userid home trace

theorem routedWhile_composable (userid : Int32) (home : Bytes) :
    Composable (RoutedWhile userid home) := by
  apply guarded_composable
  constructor
  · intro _
    exact routed_sends userid home [] (by simp)
  · intro before middle after first second one other
    exact routed_append userid home first second one other

theorem basic_routed {kind : Option MsgType} (userid : Int32) (home : Bytes)
    (me : ClientSession) (conn data : Bytes) {α : Type} {command : Handler α}
    (basic : Basic me kind conn data α command) : Keeps (RoutedWhile userid home) command := by
  intro world first
  have owners := basic_keepsOwners me conn data basic world
  refine ⟨firstHolder_congr world _ userid home owners first, ?_⟩
  cases basic with
  | look question blind => exact routed_sends userid home _ (by simp)
  | reply bytes => exact routed_sends userid home _ (by simp)
  | status peer bytes => exact routed_sends userid home _ (by simp)
  | ask call => exact routed_sends userid home _ (by simp [ask])
  | edit change keepsUser blind => exact routed_sends userid home _ (by simp)
  | direct target person => exact deliver_routed userid home _ _ _ _ _ world first
  | group target writer => exact deliver_routed userid home _ _ _ _ _ world first
  | notify type target outbuf => exact deliver_routed userid home _ _ _ _ _ world first

/-- A login only sends: its answer, the stored messages and the status notices. -/
theorem login_sends (env : Env) (me : ClientSession) (conn data : Bytes) (world : World) :
    ∀ label ∈ (onLoginResponse env me conn data world).trace,
      ∃ peer bytes cause, label = .send peer bytes cause := by
  intro label member
  rcases login_cases env me conn data world with
    ⟨username, password, user, -, granted⟩ | ⟨-, -, answered⟩
  · obtain ⟨bytes, tells, plain, trace, -⟩ :=
      logIn_outcome env me conn world username password user
    rw [granted, trace] at member
    simp only [List.mem_cons, List.mem_append, replayed, List.mem_map] at member
    rcases member with rfl | ⟨_, -, rfl⟩ | ⟨_, -, rfl⟩ | told
    · exact ⟨_, _, _, rfl⟩
    · exact ⟨_, _, _, rfl⟩
    · exact ⟨_, _, _, rfl⟩
    · obtain ⟨_, _, rfl⟩ := plain label told
      exact ⟨_, _, _, rfl⟩
  · obtain ⟨_, rfl⟩ := answered label member
    exact ⟨_, _, _, rfl⟩

theorem process_routed (env : Env) (me : ClientSession) (conn : Bytes) (mem : Nat → UInt8)
    (garbage : Int32) (msgbuff : Bytes) (userid : Int32) (home : Bytes) (world : World)
    (first : FirstHolder world userid home) :
    Routed userid home (process env me conn mem garbage msgbuff world).trace := by
  cases decoded : decodeFrame mem msgbuff with
  | none =>
      exact ((process_undecoded env me conn mem garbage msgbuff decoded []).keeps
        (routedWhile_composable userid home) (basic_routed userid home me conn []) world first).2
  | some parts =>
      obtain ⟨cmd, m_seq, data, rest⟩ := parts
      by_cases login : MsgType.ofCode cmd = some .login
      · rw [(process_login_outcome env me conn mem garbage msgbuff cmd m_seq data rest decoded
          login world).1]
        exact routed_sends userid home _ (login_sends env _ conn data _)
      · exact ((process_built env me conn mem garbage msgbuff cmd m_seq data rest decoded
          login).keeps (routedWhile_composable userid home) (basic_routed userid home _ conn data)
          world first).2

theorem step_routed (env : Env) (userid : Int32) (home : Bytes) (world : World) (event : Event)
    (first : FirstHolder world userid home) : Routed userid home (step env world event).1 := by
  have silent : Routed userid home [] := routed_sends userid home [] (by simp)
  rw [step]
  by_cases up : world.up
  · rw [if_pos up]
    cases event with
    | connect conn junkTarget => exact silent
    | disconnect conn => exact silent
    | frame conn msgbuff mem garbage =>
        rw [serve]
        cases found : world.m_mapclient.find? conn with
        | none => exact silent
        | some me =>
            have routed := process_routed env me conn mem garbage msgbuff userid home world first
            dsimp only
            rw [finish]
            split <;> exact routed
  · rw [if_neg up]
    exact silent

end Routing

/-! A session keeps what its login gave it. -/
section Staying

variable (env : Env)

/-- The session stays open and logs in as nobody else, and nobody else logs in as
its user. -/
def Stays (conn : Bytes) (userid : Int32) (world : World) (event : Event) : Prop :=
  (∀ peer, event = .disconnect peer → peer ≠ conn) ∧
  ∀ peer other, loginOf env world event = some (peer, other) → (peer = conn ↔ other = userid)

theorem finish_ownerOf {α : Type} (outcome : Outcome World Label Fault α) (conn : Bytes) :
    ownerOf (finish outcome).2 conn = ownerOf outcome.state conn := by
  rw [finish]
  split <;> rfl

theorem step_login (world : World) (event : Event) (conn : Bytes) (userid : Int32)
    (login : loginOf env world event = some (conn, userid)) (other : Bytes) :
    ownerOf (step env world event).2 other =
      if other = conn then some userid else ownerOf world other := by
  cases event with
  | connect peer junkTarget => cases login
  | disconnect peer => cases login
  | frame peer msgbuff mem garbage =>
      rw [loginOf] at login
      split_ifs at login with ready
      obtain ⟨session, found⟩ := Option.isSome_iff_exists.mp ready.2
      cases text : loginData mem msgbuff with
      | none =>
          rw [text] at login
          cases login
      | some data =>
          simp only [text, Option.map_eq_some_iff] at login
          obtain ⟨granted, matched, same⟩ := login
          obtain ⟨rfl, rfl⟩ := Prod.mk.inj same
          have owner := process_loginOwners env session peer mem garbage msgbuff data world text
            ready.2 other
          rw [matched] at owner
          simp only [step, if_pos ready.1, serve, found, finish_ownerOf]
          exact owner

/-- Without a login and a disconnection of its own a session keeps its id. -/
theorem step_keeps_owner (world : World) (event : Event) (conn : Bytes) (userid : Int32)
    (none' : loginOf env world event = none)
    (stays : ∀ peer, event = .disconnect peer → peer ≠ conn)
    (held : ownerOf world conn = some userid) :
    ownerOf (step env world event).2 conn = some userid := by
  rw [step]
  by_cases up : world.up
  · rw [if_pos up]
    obtain ⟨session, present, same⟩ := Option.map_eq_some_iff.mp held
    cases event with
    | connect peer junkTarget =>
        rw [serve, ownerOf, OrderedMap.find?_insert]
        by_cases here : conn = peer
        · simp [← here, present, same]
        · simp [here, present, same]
    | disconnect peer =>
        have other := stays peer rfl
        rw [serve, ownerOf, OrderedMap.find?_erase, if_neg other.symm, present, Option.map_some,
          same]
    | frame peer msgbuff mem garbage =>
        rw [serve]
        cases found : world.m_mapclient.find? peer with
        | none => exact held
        | some me =>
            dsimp only
            rw [finish_ownerOf]
            have ready : world.up ∧ (world.m_mapclient.find? peer).isSome := ⟨up, by simp [found]⟩
            rw [loginOf, if_pos ready] at none'
            cases text : loginData mem msgbuff with
            | none =>
                exact (process_keepsOwners env me peer mem garbage msgbuff text world conn).trans
                  held
            | some data =>
                have owner := process_loginOwners env me peer mem garbage msgbuff data world text
                  ready.2 conn
                simp only [text, Option.map_eq_none_iff] at none'
                rw [none'] at owner
                exact owner.trans held
  · rw [if_neg up]
    exact held

theorem run_keeps_owner (events : List Event) (world : World) (conn : Bytes) (userid : Int32)
    (stays : Along (step env) (Stays env conn userid) world events)
    (held : ownerOf world conn = some userid) :
    ownerOf (run (step env) world events).2 conn = some userid := by
  induction events generalizing world with
  | nil => exact held
  | cons event rest ih =>
      obtain ⟨⟨remains, logins⟩, later⟩ := stays
      apply ih _ later
      cases login : loginOf env world event with
      | none => exact step_keeps_owner env world event conn userid login remains held
      | some entered =>
          rw [step_login env world event entered.1 entered.2 login]
          by_cases here : conn = entered.1
          · rw [if_pos here, (logins entered.1 entered.2 login).mp here.symm]
          · rw [if_neg here, held]

end Staying

/-- After a session logged in as a user, every direct chat to the user goes out
on the first session in the order of the connection names that holds the id; it
is the session of the newest login if and only if no other one with the id comes
before it. -/
theorem direct_chat_first_session (env : Env) (database : Database) (answers : Nat → Bool)
    (asked : Nat) (before middle : List Event) (login event : Event) (newest : Bytes)
    (userid : Int32) :
    let entering := (run (step env) (boot env database answers asked) before).2
    let world := (run (step env) (step env entering login).2 middle).2
    loginOf env entering login = some (newest, userid) →
    Along (step env) (Stays env newest userid) (step env entering login).2 middle →
    ∀ earlier item later,
      (step env world event).1 = earlier ++ .accept .chat userid item :: later →
      item.stem = .direct →
      ∃ home bytes rest, later = .send home bytes (.live .chat userid item) :: rest ∧
        FirstHolder world userid home ∧
        (home = newest ↔ ∀ other, ownerOf world other = some userid → ¬ other < newest) := by
  intro entering world entered stays earlier item later split direct
  have holds : ownerOf world newest = some userid := by
    apply run_keeps_owner env middle _ newest userid stays
    rw [step_login env entering login newest userid entered newest, if_pos rfl]
  obtain ⟨home, first⟩ := firstHolder_exists world userid newest holds
  obtain ⟨bytes, rest, sent⟩ := step_routed env userid home world event first earlier item later
    split direct
  refine ⟨home, bytes, rest, sent, first, ?_⟩
  constructor
  · rintro rfl other held
    exact not_lt.mpr (first.2 other held)
  · intro least
    exact firstHolder_unique world userid home newest first
      ⟨holds, fun other held => not_lt.mp (least other held)⟩

def entersAs (conn : Bytes) (m_seq : Int32) : Event :=
  sampleFrame conn .login m_seq (requestText (logsIn "a" "p"))

def chatsTo (conn : Bytes) (target : Int32) : Event :=
  sampleFrame conn .chat 9 (text "hi") (encodeInt target)

/-- User `1` registers on the connection `[1]`; `[2]` and `[3]` are open too. -/
def threeConnections : List Event :=
  [.connect [1] 0, .connect [2] 0, .connect [3] 0,
    sampleFrame [1] .register 1 (requestText (registers "a" "p"))]

theorem direct_chat_first_session_alone :
    let entering := (run (step sampleEnv) (boot sampleEnv {} (fun _ => true) 0)
      threeConnections).2
    let world := (step sampleEnv entering (entersAs [2] 2)).2
    loginOf sampleEnv entering (entersAs [2] 2) = some ([2], 1) ∧
    ∃ home bytes rest, (step sampleEnv world (chatsTo [3] 1)).1.drop 1 =
      .send home bytes (.live .chat 1 ⟨.direct, 9, -1, text "hi"⟩) :: rest ∧
        FirstHolder world 1 home := by
  intro entering world
  have entered : loginOf sampleEnv entering (entersAs [2] 2) = some ([2], 1) := by
    decide +kernel
  have split : (step sampleEnv world (chatsTo [3] 1)).1 =
      [] ++ .accept .chat 1 ⟨.direct, 9, -1, text "hi"⟩ ::
        (step sampleEnv world (chatsTo [3] 1)).1.drop 1 := by
    decide +kernel
  obtain ⟨home, bytes, rest, sent, first, -⟩ := direct_chat_first_session sampleEnv {}
    (fun _ => true) 0 threeConnections [] (entersAs [2] 2) (chatsTo [3] 1) [2] 1 entered trivial
    [] _ _ split rfl
  exact ⟨entered, home, bytes, rest, sent, first⟩

/-- `[1]` and then `[2]` log in as user `1`: the chat from `[3]` still goes to `[1]`. -/
theorem newest_login_passed_over :
    let entering := (run (step sampleEnv) (boot sampleEnv {} (fun _ => true) 0)
      (threeConnections ++ [entersAs [1] 2])).2
    let world := (step sampleEnv entering (entersAs [2] 2)).2
    loginOf sampleEnv entering (entersAs [2] 2) = some ([2], 1) ∧
    Along (step sampleEnv) (Stays sampleEnv [2] 1) world [] ∧
    ¬ ∀ earlier item later,
      (step sampleEnv world (chatsTo [3] 1)).1 = earlier ++ .accept .chat 1 item :: later →
      item.stem = .direct →
      ∃ bytes rest, later = .send [2] bytes (.live .chat 1 item) :: rest := by
  intro entering world
  refine ⟨by decide +kernel, trivial, fun received => ?_⟩
  have split : (step sampleEnv world (chatsTo [3] 1)).1 =
      [] ++ .accept .chat 1 ⟨.direct, 9, -1, text "hi"⟩ ::
        (step sampleEnv world (chatsTo [3] 1)).1.drop 1 := by
    decide +kernel
  have found : (world.getSessionByID 1).map Prod.fst = some [1] := by decide +kernel
  obtain ⟨⟨home, session⟩, located, rfl⟩ := Option.map_eq_some_iff.mp found
  have first := (getSessionByID_first world 1 [1]).mpr ⟨session, located⟩
  obtain ⟨_, _, sent⟩ := step_routed sampleEnv 1 [1] world (chatsTo [3] 1) first _ _ _ split rfl
  obtain ⟨_, _, claimed⟩ := received _ _ _ split rfl
  rw [sent] at claimed
  cases claimed

end EdoyumIM.SessionLookup
