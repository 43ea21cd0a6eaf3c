import EdoyumIM.Effects
import EdoyumIM.OrderedStore

/-!
The session maps of IMServer and FileServer. A TcpConnection object has an
address, which another object may have once it is freed; an object is freed when
neither the network library nor a session refers to it. A ClientSession refers
to its connection, a FileSession does so weakly. The library calls back when the
connection is up and when it is down, and keeps the object until then. A session
is owned by the map alone; the callback of a connection holds its bare address,
which is the number of the session object here.
-/

namespace EdoyumIM.SessionRegistry

open Effects OrderedStore

inductive Server where
  | im
  | file
  deriving DecidableEq

/-- Whether a session keeps its connection alive: `m_conn` against `tmpConn_`. -/
def Server.strong : Server → Bool
  | .im => true
  | .file => false

structure TcpConnection where
  number : Nat
  address : UInt64
  connected : Bool := true
  held : Bool := true
  messageCallback : Option Nat := none
  deriving DecidableEq

structure Session where
  number : Nat
  conn : Nat
  strong : Bool
  deriving DecidableEq

/-- `objects` are the connection objects that are not freed; the two counters
number the connections and the sessions made so far. -/
structure Site where
  objects : List TcpConnection := []
  m_sessions : OrderedMap String Session := OrderedMap.empty
  accepted : Nat := 0
  made : Nat := 0

/-! The keys. -/
section Keys

/-- What `ss << (void*)conn.get()` leaves in the stream; the pointer is not null. -/
def addressText (address : UInt64) : String :=
  String.ofList ('0' :: 'x' :: Nat.toDigits 16 address.toNat)

theorem digitChar_inj : ∀ one < 16, ∀ other < 16,
    Nat.digitChar one = Nat.digitChar other → one = other := by decide

theorem toDigits_inj (one other : Nat) (same : Nat.toDigits 16 one = Nat.toDigits 16 other) :
    one = other := by
  induction one using Nat.strong_induction_on generalizing other with
  | _ one ih =>
      rw [Nat.toDigits_eq_if (by decide), @Nat.toDigits_eq_if 16 other (by decide)] at same
      split_ifs at same with small alsoSmall alsoSmall
      · exact digitChar_inj one small other alsoSmall (List.singleton_inj.mp same)
      · have front := congrArg List.length same
        have filled := @Nat.length_toDigits_pos 16 (other / 16)
        simp only [List.length_append, List.length_singleton] at front
        omega
      · have front := congrArg List.length same
        have filled := @Nat.length_toDigits_pos 16 (one / 16)
        simp only [List.length_append, List.length_singleton] at front
        omega
      · obtain ⟨front, last⟩ := List.append_inj' same rfl
        have heads := ih (one / 16) (by omega) (other / 16) front
        have digits := digitChar_inj (one % 16) (by omega) (other % 16) (by omega)
          (List.singleton_inj.mp last)
        omega

theorem addressText_inj (one other : UInt64) (same : addressText one = addressText other) :
    one = other := by
  have letters := String.ofList_injective same
  simp only [List.cons.injEq, true_and] at letters
  exact UInt64.toNat_inj.mp (toDigits_inj _ _ letters)

end Keys

/-! The callbacks. The two servers differ in the reference that a session holds. -/
section Callbacks

namespace Site

def changeObject (number : Nat) (change : TcpConnection → TcpConnection) (site : Site) : Site :=
  { site with
    objects := site.objects.map fun object => if object.number = number then change object else object }

/-- A new session object; it binds itself into the callback of its connection. -/
def newSession (server : Server) (conn : TcpConnection) (site : Site) : Session × Site :=
  (⟨site.made, conn.number, server.strong⟩,
    { site.changeObject conn.number fun object => { object with messageCallback := some site.made } with
      made := site.made + 1 })

def onClose (conn : TcpConnection) (site : Site) : Site :=
  { site with m_sessions := site.m_sessions.erase (addressText conn.address) }

/-- A session whose key is taken is not inserted, and destroyed on the way out. -/
def onConnection (server : Server) (conn : TcpConnection) (site : Site) : Site :=
  if conn.connected then
    let (session, bound) := site.newSession server conn
    { bound with m_sessions := bound.m_sessions.insert (addressText conn.address) session }
  else site.onClose conn

end Site

def IMServer.onConnection : TcpConnection → Site → Site := Site.onConnection .im

def FileServer.onConnection : TcpConnection → Site → Site := Site.onConnection .file

end Callbacks

/-! The library: it makes and frees connections, and calls back. -/
section Library

inductive Event where
  | up (address : UInt64)
  | down (number : Nat)
  | release (number : Nat)
  | free (number : Nat)

def react : Server → TcpConnection → Site → Site
  | .im => IMServer.onConnection
  | .file => FileServer.onConnection

def handle (server : Server) (site : Site) : Event → Site
  | .up address =>
      let conn : TcpConnection := { number := site.accepted, address := address }
      react server conn
        { site with objects := site.objects ++ [conn], accepted := site.accepted + 1 }
  | .down number =>
      match site.objects.find? fun object => object.number = number with
      | none => site
      | some conn =>
          let closed := { conn with connected := false }
          react server closed (site.changeObject number fun _ => closed)
  | .release number => site.changeObject number fun object => { object with held := false }
  | .free number => { site with objects := site.objects.filter fun object => object.number ≠ number }

def step (server : Server) (site : Site) (event : Event) : List Unit × Site :=
  ([], handle server site event)

/-- A session in the map keeps the connection object. -/
def kept (site : Site) (number : Nat) : Prop :=
  ∃ entry ∈ site.m_sessions.entries, entry.2.strong = true ∧ entry.2.conn = number

instance (site : Site) (number : Nat) : Decidable (kept site number) :=
  inferInstanceAs (Decidable (∃ entry ∈ site.m_sessions.entries, _))

/-- What can happen next. A connection goes up once, at an address no object
has, and down once. The library lets go of it behind the second callback; it may
do so before where the session refers to it too. It is freed when nothing does. -/
def Possible (server : Server) (site : Site) : Event → Prop
  | .up address => ∀ object ∈ site.objects, object.address ≠ address
  | .down number => ∃ object ∈ site.objects, object.number = number ∧ object.connected = true
  | .release number => ∃ object ∈ site.objects, object.number = number ∧ object.held = true ∧
      (object.connected = true → server.strong = true)
  | .free number => ∃ object ∈ site.objects, object.number = number ∧ object.held = false ∧
      ¬ kept site number

instance (server : Server) (site : Site) (event : Event) : Decidable (Possible server site event) :=
  match event with
  | .up _ => inferInstanceAs (Decidable (∀ object ∈ site.objects, _))
  | .down _ => inferInstanceAs (Decidable (∃ object ∈ site.objects, _))
  | .release _ => inferInstanceAs (Decidable (∃ object ∈ site.objects, _))
  | .free _ => inferInstanceAs (Decidable (∃ object ∈ site.objects, _))

/-- The insert of a connection that goes up meets no entry under its key. -/
def InsertsNew (site : Site) : Event → Prop
  | .up address => site.m_sessions.find? (addressText address) = none
  | _ => True

/-- One entry for each open connection, under its address text, which owns the
session that the connection's callback is bound to. -/
structure Registered (site : Site) : Prop where
  owned : ∀ conn ∈ site.objects, conn.connected = true →
    ∃ session, site.m_sessions.find? (addressText conn.address) = some session ∧
      session.conn = conn.number ∧ conn.messageCallback = some session.number
  backed : ∀ key session, site.m_sessions.find? key = some session →
    ∃ conn ∈ site.objects, conn.connected = true ∧ key = addressText conn.address ∧
      session.conn = conn.number
  apart : ∀ one ∈ site.objects, ∀ other ∈ site.objects,
    addressText one.address = addressText other.address → one = other

end Library

/-! The invariant. -/
section Invariant

structure Sound (server : Server) (site : Site) : Prop where
  registered : Registered site
  numbers : (site.objects.map TcpConnection.number).Nodup
  counted : ∀ conn ∈ site.objects, conn.number < site.accepted
  references : ∀ key session, site.m_sessions.find? key = some session →
    session.strong = server.strong
  alive : ∀ conn ∈ site.objects, conn.connected = true → conn.held = true ∨ server.strong = true

variable {server : Server} {site : Site}

theorem start_sound : Sound server {} where
  registered := ⟨nofun, nofun, nofun⟩
  numbers := List.nodup_nil
  counted := nofun
  references := nofun
  alive := nofun

theorem number_unique (sound : Sound server site) (one other : TcpConnection)
    (left : one ∈ site.objects) (right : other ∈ site.objects)
    (same : one.number = other.number) : one = other :=
  List.inj_on_of_nodup_map sound.numbers left right same

/-- A key that no object's address gives is not in use. -/
theorem inserts_new (sound : Sound server site) (event : Event)
    (possible : Possible server site event) : InsertsNew site event := by
  cases event with
  | up address =>
      rw [InsertsNew, Option.eq_none_iff_forall_ne_some]
      intro session found
      obtain ⟨conn, member, -, key, -⟩ := sound.registered.backed _ session found
      exact possible conn member (addressText_inj _ _ key).symm
  | down number => trivial
  | release number => trivial
  | free number => trivial

/-! Changing one object. -/

theorem mem_changed (sound : Sound server site) (conn : TcpConnection)
    (member : conn ∈ site.objects) (change : TcpConnection → TcpConnection)
    (object : TcpConnection) :
    object ∈ (site.changeObject conn.number change).objects ↔
      object = change conn ∨ object ∈ site.objects ∧ object.number ≠ conn.number := by
  simp only [Site.changeObject, List.mem_map]
  constructor
  · rintro ⟨old, inside, rfl⟩
    split_ifs with same
    · exact Or.inl (congrArg change (number_unique sound old conn inside member same))
    · exact Or.inr ⟨inside, same⟩
  · rintro (rfl | ⟨inside, other⟩)
    · exact ⟨conn, member, if_pos rfl⟩
    · exact ⟨object, inside, if_neg other⟩

theorem changed_numbers (sound : Sound server site) (conn : TcpConnection)
    (member : conn ∈ site.objects) (change : TcpConnection → TcpConnection)
    (number : (change conn).number = conn.number) :
    (site.changeObject conn.number change).objects.map TcpConnection.number =
      site.objects.map TcpConnection.number := by
  rw [Site.changeObject, List.map_map]
  apply List.map_congr_left
  intro object inside
  rw [Function.comp_apply]
  split_ifs with same
  · rw [number_unique sound object conn inside member same, number]
  · rfl

theorem changed_apart (sound : Sound server site) (conn : TcpConnection)
    (member : conn ∈ site.objects) (change : TcpConnection → TcpConnection)
    (address : (change conn).address = conn.address) :
    ∀ one ∈ (site.changeObject conn.number change).objects,
      ∀ other ∈ (site.changeObject conn.number change).objects,
        addressText one.address = addressText other.address → one = other := by
  have old := sound.registered.apart
  intro one left other right same
  rcases (mem_changed sound conn member change one).mp left with rfl | ⟨oneInside, oneElse⟩
  · rcases (mem_changed sound conn member change other).mp right with rfl | ⟨inside, different⟩
    · rfl
    · rw [address] at same
      exact absurd (old conn member other inside same ▸ rfl) different
  · rcases (mem_changed sound conn member change other).mp right with rfl | ⟨inside, -⟩
    · rw [address] at same
      exact absurd (old one oneInside conn member same ▸ rfl) oneElse
    · exact old one oneInside other inside same

/-! The four events. -/

/-- The callback is set on the new object only: no older one has its number. -/
theorem handle_up (sound : Sound server site) (address : UInt64) :
    handle server site (.up address) =
      { objects := site.objects ++ [⟨site.accepted, address, true, true, some site.made⟩]
        m_sessions := site.m_sessions.insert (addressText address)
          ⟨site.made, site.accepted, server.strong⟩
        accepted := site.accepted + 1
        made := site.made + 1 } := by
  have others : site.objects.map (fun object =>
      if object.number = site.accepted then { object with messageCallback := some site.made }
      else object) = site.objects := by
    conv_rhs => rw [← List.map_id site.objects]
    apply List.map_congr_left
    intro object inside
    exact if_neg (sound.counted object inside).ne
  cases server <;>
    simp [handle, react, IMServer.onConnection, FileServer.onConnection, Site.onConnection,
      Site.newSession, Site.changeObject, others]

theorem up_registered (sound : Sound server site) (address : UInt64)
    (possible : Possible server site (.up address)) :
    Registered (handle server site (.up address)) := by
  have fresh := inserts_new sound (.up address) possible
  have away : ∀ conn ∈ site.objects, addressText conn.address ≠ addressText address :=
    fun conn member same => possible conn member (addressText_inj _ _ same)
  rw [InsertsNew] at fresh
  rw [handle_up sound address]
  constructor
  case owned =>
    intro conn member up
    rw [OrderedMap.find?_insert, fresh]
    rcases List.mem_append.mp member with old | new
    · rw [if_neg (away conn old)]
      exact sound.registered.owned conn old up
    · cases List.mem_singleton.mp new
      exact ⟨_, if_pos rfl, rfl, rfl⟩
  case backed =>
    intro key session found
    rw [OrderedMap.find?_insert, fresh] at found
    split_ifs at found with here
    · cases found
      exact ⟨_, List.mem_append_right _ (List.mem_singleton_self _), rfl, here, rfl⟩
    · obtain ⟨conn, member, facts⟩ := sound.registered.backed key session found
      exact ⟨conn, List.mem_append_left _ member, facts⟩
  case apart =>
    intro one left other right same
    rcases List.mem_append.mp left with oneOld | oneNew
    · rcases List.mem_append.mp right with otherOld | otherNew
      · exact sound.registered.apart one oneOld other otherOld same
      · cases List.mem_singleton.mp otherNew
        exact absurd same (away one oneOld)
    · cases List.mem_singleton.mp oneNew
      rcases List.mem_append.mp right with otherOld | otherNew
      · exact absurd same.symm (away other otherOld)
      · exact (List.mem_singleton.mp otherNew).symm

theorem up_sound (sound : Sound server site) (address : UInt64)
    (possible : Possible server site (.up address)) :
    Sound server (handle server site (.up address)) := by
  have registered := up_registered sound address possible
  have fresh := inserts_new sound (.up address) possible
  rw [InsertsNew] at fresh
  rw [handle_up sound address] at registered ⊢
  constructor
  case registered => exact registered
  case numbers =>
    rw [List.map_append, List.nodup_append]
    refine ⟨sound.numbers, List.nodup_singleton _, ?_⟩
    intro number member other last
    obtain ⟨conn, inside, rfl⟩ := List.mem_map.mp member
    cases List.mem_singleton.mp last
    exact (sound.counted conn inside).ne
  case counted =>
    intro conn member
    rcases List.mem_append.mp member with old | new
    · exact Nat.lt_succ_of_lt (sound.counted conn old)
    · cases List.mem_singleton.mp new
      exact Nat.lt_succ_self _
  case references =>
    intro key session found
    rw [OrderedMap.find?_insert, fresh] at found
    split_ifs at found with here
    · cases found
      rfl
    · exact sound.references key session found
  case alive =>
    intro conn member up
    rcases List.mem_append.mp member with old | new
    · exact sound.alive conn old up
    · cases List.mem_singleton.mp new
      exact Or.inl rfl

theorem find_object (sound : Sound server site) (conn : TcpConnection)
    (member : conn ∈ site.objects) :
    site.objects.find? (fun object => object.number = conn.number) = some conn := by
  cases located : site.objects.find? fun object => object.number = conn.number with
  | none => simpa using List.find?_eq_none.mp located conn member
  | some found =>
      have same : found.number = conn.number := by simpa using List.find?_some located
      exact congrArg some
        (number_unique sound found conn (List.mem_of_find?_eq_some located) member same)

theorem handle_down (sound : Sound server site) (conn : TcpConnection)
    (member : conn ∈ site.objects) :
    handle server site (.down conn.number) =
      { site.changeObject conn.number fun _ => { conn with connected := false } with
        m_sessions := site.m_sessions.erase (addressText conn.address) } := by
  cases server <;>
    simp [handle, find_object sound conn member, react, IMServer.onConnection,
      FileServer.onConnection, Site.onConnection, Site.onClose, Site.changeObject]

/-- Another object's address gives another key than the one that is erased. -/
theorem down_registered (sound : Sound server site) (conn : TcpConnection)
    (member : conn ∈ site.objects) : Registered (handle server site (.down conn.number)) := by
  have changed := mem_changed sound conn member fun _ => { conn with connected := false }
  have apart := sound.registered.apart
  rw [handle_down sound conn member]
  constructor
  case owned =>
    intro object inside up
    rcases (changed object).mp inside with rfl | ⟨old, other⟩
    · cases up
    · have key : addressText object.address ≠ addressText conn.address := by
        intro same
        exact other (apart object old conn member same ▸ rfl)
      rw [OrderedMap.find?_erase, if_neg key]
      exact sound.registered.owned object old up
  case backed =>
    intro key session found
    rw [OrderedMap.find?_erase] at found
    split_ifs at found with here
    obtain ⟨object, old, up, rfl, back⟩ := sound.registered.backed key session found
    have other : object.number ≠ conn.number := by
      intro same
      exact here (number_unique sound object conn old member same ▸ rfl)
    exact ⟨object, (changed object).mpr (Or.inr ⟨old, other⟩), up, rfl, back⟩
  case apart => exact changed_apart sound conn member _ rfl

theorem down_sound (sound : Sound server site) (conn : TcpConnection)
    (member : conn ∈ site.objects) : Sound server (handle server site (.down conn.number)) := by
  have registered := down_registered sound conn member
  have changed := mem_changed sound conn member fun _ => { conn with connected := false }
  rw [handle_down sound conn member] at registered ⊢
  constructor
  case registered => exact registered
  case numbers =>
    have same := changed_numbers sound conn member (fun _ => { conn with connected := false }) rfl
    exact (congrArg List.Nodup same).mpr sound.numbers
  case counted =>
    intro object inside
    rcases (changed object).mp inside with rfl | ⟨old, -⟩
    · exact sound.counted conn member
    · exact sound.counted object old
  case references =>
    intro key session found
    rw [OrderedMap.find?_erase] at found
    split_ifs at found
    exact sound.references key session found
  case alive =>
    intro object inside up
    rcases (changed object).mp inside with rfl | ⟨old, -⟩
    · cases up
    · exact sound.alive object old up

theorem release_sound (sound : Sound server site) (conn : TcpConnection)
    (member : conn ∈ site.objects) (still : conn.connected = true → server.strong = true) :
    Sound server (handle server site (.release conn.number)) := by
  have changed := mem_changed sound conn member fun object => { object with held := false }
  constructor
  case registered =>
    constructor
    case owned =>
      intro object inside up
      rcases (changed object).mp inside with rfl | ⟨old, -⟩
      · exact sound.registered.owned conn member up
      · exact sound.registered.owned object old up
    case backed =>
      intro key session found
      obtain ⟨object, old, up, key, back⟩ := sound.registered.backed key session found
      by_cases same : object.number = conn.number
      · cases number_unique sound object conn old member same
        exact ⟨_, (changed _).mpr (Or.inl rfl), up, key, back⟩
      · exact ⟨object, (changed object).mpr (Or.inr ⟨old, same⟩), up, key, back⟩
    case apart => exact changed_apart sound conn member _ rfl
  case numbers =>
    have same := changed_numbers sound conn member (fun object => { object with held := false }) rfl
    exact (congrArg List.Nodup same).mpr sound.numbers
  case counted =>
    intro object inside
    rcases (changed object).mp inside with rfl | ⟨old, -⟩
    · exact sound.counted conn member
    · exact sound.counted object old
  case references => exact sound.references
  case alive =>
    intro object inside up
    rcases (changed object).mp inside with rfl | ⟨old, -⟩
    · exact Or.inr (still up)
    · exact sound.alive object old up

/-- An open connection is not freed: the library holds it, or its session does. -/
theorem open_not_freed (sound : Sound server site) (conn : TcpConnection)
    (member : conn ∈ site.objects) (up : conn.connected = true) (unheld : conn.held = false)
    (free : ¬ kept site conn.number) : False := by
  rcases sound.alive conn member up with held | strong
  · rw [unheld] at held
    cases held
  · obtain ⟨session, found, back, -⟩ := sound.registered.owned conn member up
    have reference := (sound.references _ session found).trans strong
    exact free ⟨_, (OrderedMap.find?_iff _ _ _).mp found, reference, back⟩

theorem free_sound (sound : Sound server site) (conn : TcpConnection)
    (member : conn ∈ site.objects) (unheld : conn.held = false)
    (free : ¬ kept site conn.number) : Sound server (handle server site (.free conn.number)) := by
  have remains : ∀ object, object ∈ (handle server site (.free conn.number)).objects ↔
      object ∈ site.objects ∧ object.number ≠ conn.number := by
    simp [handle]
  constructor
  case registered =>
    constructor
    case owned =>
      intro object inside up
      exact sound.registered.owned object ((remains object).mp inside).1 up
    case backed =>
      intro key session found
      obtain ⟨object, old, up, facts⟩ := sound.registered.backed key session found
      have other : object.number ≠ conn.number := by
        intro same
        cases number_unique sound object conn old member same
        exact open_not_freed sound conn member up unheld free
      exact ⟨object, (remains object).mpr ⟨old, other⟩, up, facts⟩
    case apart =>
      intro one left other right same
      exact sound.registered.apart one ((remains one).mp left).1 other
        ((remains other).mp right).1 same
  case numbers => exact sound.numbers.sublist (List.filter_sublist.map _)
  case counted => exact fun object inside => sound.counted object ((remains object).mp inside).1
  case references => exact sound.references
  case alive =>
    exact fun object inside up => sound.alive object ((remains object).mp inside).1 up

theorem handle_sound (event : Event) (sound : Sound server site)
    (possible : Possible server site event) : Sound server (handle server site event) := by
  cases event with
  | up address => exact up_sound sound address possible
  | down number =>
      obtain ⟨conn, member, rfl, -⟩ := possible
      exact down_sound sound conn member
  | release number =>
      obtain ⟨conn, member, rfl, -, still⟩ := possible
      exact release_sound sound conn member still
  | free number =>
      obtain ⟨conn, member, rfl, unheld, free⟩ := possible
      exact free_sound sound conn member unheld free

end Invariant

/-! Every run. -/
section Histories

/-- Along every history of connections no insert meets a taken key, and in every
state between two events the map is the registry of the open connections. -/
theorem sessions_registered (server : Server) (events : List Event)
    (possible : Along (step server) (Possible server) {} events) :
    Along (step server) InsertsNew {} events ∧
      ∀ before after, events = before ++ after → Registered (run (step server) {} before).2 := by
  have keeps : ∀ site event, Sound server site → Possible server site event →
      Sound server (step server site event).2 :=
    fun site event sound allowed => handle_sound event sound allowed
  have fresh : Along (step server) InsertsNew {} events :=
    along_of_invariant (step server) (fun site event sound => inserts_new sound event) keeps
      {} events start_sound possible
  have next : Along (step server) (fun site event => Registered (step server site event).2)
      {} events :=
    along_of_invariant (step server)
      (fun site event sound allowed => (keeps site event sound allowed).registered) keeps
      {} events start_sound possible
  have start : Registered {} := (start_sound : Sound server {}).registered
  exact ⟨fresh, (along_reached (step server) Registered {} events).mp ⟨start, next⟩⟩

/-- The last connection stands where the first one stood, with another up meanwhile. -/
def reuse : List Event :=
  [.up 0x5581, .up 0x6600, .down 0, .release 0, .free 0, .up 0x5581, .down 1]

theorem sessions_registered_reuse :
    (Along (step .file) InsertsNew {} reuse ∧
      ∀ before after, reuse = before ++ after → Registered (run (step .file) {} before).2) ∧
    Along (step .im) InsertsNew {} reuse ∧
      ∀ before after, reuse = before ++ after → Registered (run (step .im) {} before).2 :=
  ⟨sessions_registered .file reuse (by decide +kernel),
    sessions_registered .im reuse (by decide +kernel)⟩

end Histories

end EdoyumIM.SessionRegistry
