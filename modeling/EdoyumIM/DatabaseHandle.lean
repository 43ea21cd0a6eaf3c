import EdoyumIM.Effects
import EdoyumIM.JsonValue

/-!
The connection of mysqltool.cpp. `m_mysql` is the handle, of which only the
null check matters. The client library answers through two given sequences, the
outcomes of `mysql_real_connect` and those of the query primitives; a query on
a null handle ends the process. The result set that `Query` builds after an
answer is left out, and so are the second out-parameter of `Execute`, which is
never written, and `m_port`, which is never read.
-/

namespace EdoyumIM.DatabaseHandle

open MachineWords JsonValue Effects

inductive Reply where
  | done
  | serverGone
  | otherError
  deriving DecidableEq, Repr

structure Target where
  host : Bytes
  user : Bytes
  passwd : Bytes
  db : Bytes
  port : Nat := 3306
  deriving DecidableEq, Repr

structure MySQLTool where
  m_mysql : Bool := false
  m_host : Bytes := []
  m_user : Bytes := []
  m_passwd : Bytes := []
  m_dbname : Bytes := []
  deriving DecidableEq, Repr

/-- What the client library answers, and how often it was asked. -/
structure Library where
  connects : Nat → Bool
  replies : Nat → Reply
  affected : Nat → UInt32
  connected : Nat := 0
  queried : Nat := 0

structure Line where
  tool : MySQLTool
  library : Library
  up : Bool := true

/-- A query comes from `connect` or from the caller; without a reply it was made
on a null handle. -/
inductive Label where
  | close
  | realConnect (target : Target) (opened : Bool)
  | setNames (text : Bytes) (reply : Option Reply)
  | query (text : Bytes) (reply : Option Reply)
  deriving DecidableEq

inductive Crash where
  | nullHandle
  deriving DecidableEq

abbrev Handler (α : Type) := Act Line Label Crash α

section Primitives

def Line.setHandle (handle : Bool) (line : Line) : Line :=
  { line with tool := { line.tool with m_mysql := handle } }

/-- Both `mysql_query` and `mysql_real_query`. -/
def mysqlQuery (label : Option Reply → Label) : Handler Reply := fun line =>
  if line.tool.m_mysql then
    let reply := line.library.replies line.library.queried
    ⟨[label (some reply)],
      { line with library := { line.library with queried := line.library.queried + 1 } },
      .ok reply⟩
  else ⟨[label none], { line with up := false }, .error .nullHandle⟩

/-- `mysql_init` and `mysql_real_connect`, which returns the handle or null. -/
def mysqlRealConnect (target : Target) : Handler Bool := fun line =>
  let opened := line.library.connects line.library.connected
  ⟨[.realConnect target opened],
    { line.setHandle opened with
      library := { line.library with connected := line.library.connected + 1 } },
    .ok opened⟩

/-- The part of a string that a C function sees. -/
def cString (text : Bytes) : Bytes := text.takeWhile (· ≠ 0)

end Primitives

section Tool

def setNames : Bytes := text "set name utf8;"

def remember (target : Target) (line : Line) : Line :=
  { line with
    tool := { line.tool with
      m_host := target.host
      m_user := target.user
      m_passwd := target.passwd
      m_dbname := target.db } }

def closeHandle : Handler Unit := do
  Act.modify (Line.setHandle false)
  Act.emit .close

/-- `MySQLTool::connect`. The reply to the encoding command is ignored. -/
def connect (target : Target) : Handler Bool := do
  let held ← Act.gets (·.tool.m_mysql)
  if held then closeHandle else pure ()
  if ← mysqlRealConnect target then
    Act.modify (remember target)
    let _ ← mysqlQuery (.setNames setNames)
    pure true
  else pure false

/-- `connect(m_host, m_user, m_passwd, m_dbname)`, always on the default port. -/
def reconnect : Handler Bool := do
  let tool ← Act.gets (·.tool)
  connect ⟨tool.m_host, tool.m_user, tool.m_passwd, tool.m_dbname, 3306⟩

inductive Answer where
  | refused
  | first
  | second
  deriving DecidableEq

def sendAgain (text : Bytes) : Handler Answer := do
  match ← mysqlQuery (.query text) with
  | .done => pure .second
  | .serverGone | .otherError => pure .refused

/-- What follows a server that is gone. -/
def resend (text : Bytes) : Handler Answer := do
  if ← reconnect then sendAgain text else pure .refused

def send (text : Bytes) : Handler Answer := do
  match ← mysqlQuery (.query text) with
  | .done => pure .first
  | .otherError => pure .refused
  | .serverGone => resend text

/-- The body that `Query` and `Execute` share. A successful reconnect of a null
handle returns failure, a failed one goes on to the query. -/
def attempt (text : Bytes) : Handler Answer := do
  if ← Act.gets (·.tool.m_mysql) then send text
  else if ← reconnect then pure .refused
  else send text

/-- `MySQLTool::Query`: whether a result set is returned. -/
def query (sql : Bytes) : Handler Bool := do
  let answer ← attempt sql
  pure (answer ≠ .refused)

/-- The count is only written behind a reconnect. -/
def report (nAffectedCount : UInt32) : Answer → Handler (Bool × UInt32)
  | .refused => pure (false, nAffectedCount)
  | .first => pure (true, nAffectedCount)
  | .second => Act.gets fun line => (true, line.library.affected line.library.queried)

/-- `MySQLTool::Execute` with its count. The statement ends at its first zero byte. -/
def executeCounted (sql : Bytes) (nAffectedCount : UInt32) : Handler (Bool × UInt32) := do
  let answer ← attempt (cString sql)
  report nAffectedCount answer

def execute (sql : Bytes) : Handler Bool := do
  let result ← executeCounted sql 0
  pure result.1

inductive Call where
  | query (sql : Bytes)
  | execute (sql : Bytes)
  deriving DecidableEq

def perform : Call → Handler Bool
  | .query sql => query sql
  | .execute sql => execute sql

def step (line : Line) (call : Call) : List Label × Line :=
  if line.up then ((perform call line).trace, (perform call line).state) else ([], line)

/-- The tool after its first `connect`. -/
def opened (target : Target) (library : Library) : Line :=
  (connect target { tool := {}, library := library }).state

end Tool

/-! What a reconnect and a call do, by the outcomes that await them. -/
section Outcomes

def Line.reconnects (line : Line) : Bool := line.library.connects line.library.connected

def Line.reply (line : Line) : Reply := line.library.replies line.library.queried

/-- The reply behind a reconnect, which has asked for the encoding first. -/
def Line.secondReply (line : Line) : Reply := line.library.replies (line.library.queried + 2)

/-- A primitive on a handle that is no statement of a caller. -/
def Label.Quiet : Label → Prop
  | .close | .realConnect _ _ | .setNames _ (some _) => True
  | .setNames _ none | .query _ _ => False

theorem reconnect_outcome (line : Line) :
    (reconnect line).value = .ok line.reconnects ∧
      (reconnect line).state.tool.m_mysql = line.reconnects ∧
      (reconnect line).state.up = line.up ∧
      (line.reconnects = true → (reconnect line).state.library =
        { line.library with
          connected := line.library.connected + 1
          queried := line.library.queried + 1 }) ∧
      ∀ label ∈ (reconnect line).trace, label.Quiet := by
  cases held : line.tool.m_mysql <;> cases answer : line.library.connects line.library.connected <;>
  simp [reconnect, connect, closeHandle, mysqlRealConnect, mysqlQuery, bind, Act.andThen, held,
    answer, Line.reconnects, Line.setHandle, remember, Label.Quiet]

def Label.onNull : Label → Bool
  | .setNames _ none | .query _ none => true
  | _ => false

def Label.statement : Label → Option (Bytes × Option Reply)
  | .query text reply => some (text, reply)
  | _ => none

theorem quiet_label (label : Label) (quiet : label.Quiet) :
    label.onNull = false ∧ label.statement = none := by
  cases label with
  | close => exact ⟨rfl, rfl⟩
  | realConnect target opened => exact ⟨rfl, rfl⟩
  | setNames text reply =>
      cases reply with
      | none => exact quiet.elim
      | some reply => exact ⟨rfl, rfl⟩
  | query text reply => exact quiet.elim

theorem quiet_trace (trace : List Label) (quiet : ∀ label ∈ trace, label.Quiet) :
    (∀ label ∈ trace, label.onNull = false) ∧ trace.filterMap Label.statement = [] := by
  constructor
  · exact fun label member => (quiet_label label (quiet label member)).1
  · exact List.filterMap_eq_nil_iff.mpr fun label member =>
      (quiet_label label (quiet label member)).2

/-- The replies a statement gets that is sent on an open handle. -/
def Line.answers (line : Line) : List Reply :=
  match line.reply with
  | .done => [.done]
  | .otherError => [.otherError]
  | .serverGone => if line.reconnects then [.serverGone, line.secondReply] else [.serverGone]

/-- What a statement on an open handle came to: whether it was answered, the
replies it got, and no query on a null handle. -/
def Sent (text : Bytes) (replies : List Reply) (outcome : Outcome Line Label Crash Answer) :
    Prop :=
  (∃ answer, outcome.value = .ok answer ∧ (answer ≠ .refused ↔ .done ∈ replies)) ∧
    outcome.trace.filterMap Label.statement = replies.map (fun reply => (text, some reply)) ∧
    ∀ label ∈ outcome.trace, label.onNull = false

theorem mysqlQuery_held (label : Option Reply → Label) (line : Line)
    (held : line.tool.m_mysql = true) :
    mysqlQuery label line = ⟨[label (some line.reply)],
      { line with library := { line.library with queried := line.library.queried + 1 } },
      .ok line.reply⟩ := by
  rw [mysqlQuery, held]
  rfl

theorem sent_after (text : Bytes) (before : List Label) (earlier replies : List Reply)
    (outcome : Outcome Line Label Crash Answer)
    (statements : before.filterMap Label.statement =
      earlier.map fun reply => (text, some reply))
    (fine : ∀ label ∈ before, label.onNull = false) (unanswered : .done ∉ earlier)
    (sent : Sent text replies outcome) :
    Sent text (earlier ++ replies) ⟨before ++ outcome.trace, outcome.state, outcome.value⟩ := by
  obtain ⟨⟨answer, value, answered⟩, later, safe⟩ := sent
  refine ⟨⟨answer, value, ?_⟩, ?_, ?_⟩
  · simpa [unanswered] using answered
  · rw [List.filterMap_append, statements, later, List.map_append]
  · exact List.forall_mem_append.mpr ⟨fine, safe⟩

theorem sendAgain_sent (text : Bytes) (line : Line) (held : line.tool.m_mysql = true) :
    Sent text [line.reply] (sendAgain text line) := by
  rw [sendAgain, Act.bind_ok _ _ _ _ (by rw [mysqlQuery_held _ _ held]),
    mysqlQuery_held _ _ held]
  cases line.reply with
  | done => exact ⟨⟨.second, rfl, by simp⟩, rfl, by simp [Label.onNull]⟩
  | serverGone => exact ⟨⟨.refused, rfl, by simp⟩, rfl, by simp [Label.onNull]⟩
  | otherError => exact ⟨⟨.refused, rfl, by simp⟩, rfl, by simp [Label.onNull]⟩

theorem resend_sent (text : Bytes) (line : Line) :
    Sent text (if line.reconnects then [line.library.replies (line.library.queried + 1)] else [])
      (resend text line) := by
  obtain ⟨value, handle, -, library, quiet⟩ := reconnect_outcome line
  obtain ⟨fine, unsent⟩ := quiet_trace _ quiet
  rw [resend, Act.bind_ok _ _ _ _ value]
  have ended : Sent text
      (if line.reconnects then [line.library.replies (line.library.queried + 1)] else [])
      ((if line.reconnects then sendAgain text else pure .refused) (reconnect line).state) := by
    cases back : line.reconnects with
    | false => exact ⟨⟨.refused, rfl, by simp⟩, rfl, by simp⟩
    | true =>
        have again := sendAgain_sent text (reconnect line).state (handle.trans back)
        rw [Line.reply, library back] at again
        exact again
  exact sent_after text _ [] _ _ unsent fine List.not_mem_nil ended

theorem send_sent (text : Bytes) (line : Line) (held : line.tool.m_mysql = true) :
    Sent text line.answers (send text line) := by
  rw [send, Act.bind_ok _ _ _ _ (by rw [mysqlQuery_held _ _ held]), mysqlQuery_held _ _ held,
    Line.answers]
  cases reply : line.reply with
  | done => exact ⟨⟨.first, rfl, by simp⟩, rfl, by simp [Label.onNull]⟩
  | otherError => exact ⟨⟨.refused, rfl, by simp⟩, rfl, by simp [Label.onNull]⟩
  | serverGone =>
      -- the first try was no answer, so the second one decides
      have again := sent_after text [.query text (some .serverGone)] [.serverGone] _ _ rfl
        (by simp [Label.onNull]) (by simp) (resend_sent text
          { line with library := { line.library with queried := line.library.queried + 1 } })
      cases back : line.reconnects with
      | false =>
          rw [show Line.reconnects { line with library :=
            { line.library with queried := line.library.queried + 1 } } = false from back] at again
          exact again
      | true =>
          rw [show Line.reconnects { line with library :=
            { line.library with queried := line.library.queried + 1 } } = true from back] at again
          exact again

theorem attempt_held (text : Bytes) (line : Line) (held : line.tool.m_mysql = true) :
    Sent text line.answers (attempt text line) := by
  rw [attempt, Act.gets_bind, held]
  exact send_sent text line held

/-- On a null handle the statement is never sent: either the reconnect succeeds
and failure is returned, or the query is made on the null handle. -/
theorem attempt_null (text : Bytes) (line : Line) (null : line.tool.m_mysql = false) :
    (line.reconnects = true → (attempt text line).trace.filterMap Label.statement = []) ∧
    (line.reconnects = false → ∃ label ∈ (attempt text line).trace, label.onNull = true) := by
  obtain ⟨value, handle, -, -, quiet⟩ := reconnect_outcome line
  obtain ⟨-, unsent⟩ := quiet_trace _ quiet
  have start : attempt text line =
      (reconnect >>= fun back => if back then pure .refused else send text) line := by
    rw [attempt, Act.gets_bind, null]
    rfl
  rw [start, Act.bind_ok _ _ _ _ value]
  constructor
  · intro back
    simp [back, unsent]
  · intro lost
    rw [lost] at handle
    refine ⟨.query text none, List.mem_append_right _ ?_, rfl⟩
    simp [lost, send, mysqlQuery, handle, bind, Act.andThen]

/-- The text a call hands to the library. -/
def Call.text : Call → Bytes
  | .query sql => sql
  | .execute sql => cString sql

def Call.sql : Call → Bytes
  | .query sql => sql
  | .execute sql => sql

theorem report_outcome (nAffectedCount : UInt32) (answer : Answer) (line : Line) :
    ∃ count, report nAffectedCount answer line = ⟨[], line, .ok (answer ≠ .refused, count)⟩ := by
  cases answer with
  | refused => exact ⟨nAffectedCount, rfl⟩
  | first => exact ⟨nAffectedCount, rfl⟩
  | second => exact ⟨line.library.affected line.library.queried, rfl⟩

theorem perform_outcome (call : Call) (line : Line) :
    (perform call line).trace = (attempt call.text line).trace ∧
      (perform call line).state = (attempt call.text line).state ∧
      (perform call line).value =
        (attempt call.text line).value.map fun answer => decide (answer ≠ .refused) := by
  cases call with
  | query sql => exact Act.bind_pure_map _ _ line
  | execute sql =>
      obtain ⟨trace, state, value⟩ := Act.bind_pure_map (executeCounted sql 0) Prod.fst line
      have inner : (executeCounted sql 0 line).trace = (attempt (cString sql) line).trace ∧
          (executeCounted sql 0 line).state = (attempt (cString sql) line).state ∧
          (executeCounted sql 0 line).value.map Prod.fst =
            (attempt (cString sql) line).value.map fun answer => decide (answer ≠ .refused) := by
        cases returned : (attempt (cString sql) line).value with
        | error fault =>
            rw [executeCounted, Act.bind_error _ _ _ fault returned]
            exact ⟨rfl, rfl, rfl⟩
        | ok answer =>
            obtain ⟨count, told⟩ := report_outcome 0 answer (attempt (cString sql) line).state
            rw [executeCounted, Act.bind_ok _ _ _ answer returned, told]
            exact ⟨List.append_nil _, rfl, rfl⟩
      exact ⟨trace.trans inner.1, state.trans inner.2.1, value.trans inner.2.2⟩

/-- A call that keeps the protocol: no query on a null handle, a null handle is
opened again for the call or the call reports failure, and `Execute` tells
whether its statement was executed, which happens at most once. -/
structure Proper (line : Line) (call : Call) : Prop where
  never_null : ∀ label ∈ (perform call line).trace, label.onNull = false
  resumed : line.tool.m_mysql = false → line.reconnects = true →
    ∃ reply, .query call.sql (some reply) ∈ (perform call line).trace
  reported : line.tool.m_mysql = false → line.reconnects = false →
    (perform call line).value = .ok false
  truthful : ∀ sql, call = .execute sql →
    ((perform call line).value = .ok true ↔
      .query sql (some .done) ∈ (perform call line).trace)
  once : ((perform call line).trace.filterMap Label.statement).countP
    (·.2 = some .done) ≤ 1

/-- The handle is open, and a statement with a zero byte in it, which `Execute`
cuts, is not answered by success. -/
def Fit (line : Line) (call : Call) : Prop :=
  line.tool.m_mysql = true ∧ ∀ sql, call = .execute sql → 0 ∈ sql → .done ∉ line.answers

theorem mem_statements (trace : List Label) (text : Bytes) (reply : Option Reply) :
    .query text reply ∈ trace ↔ (text, reply) ∈ trace.filterMap Label.statement := by
  rw [List.mem_filterMap]
  constructor
  · intro member
    exact ⟨_, member, rfl⟩
  · rintro ⟨label, member, sent⟩
    cases label with
    | query other answer =>
        obtain ⟨rfl, rfl⟩ : other = text ∧ answer = reply := by simpa [Label.statement] using sent
        exact member
    | close => cases sent
    | realConnect target opened => cases sent
    | setNames other answer => cases sent

theorem answers_once (line : Line) : line.answers.countP (· = .done) ≤ 1 := by
  rw [Line.answers]
  cases line.reply with
  | done => simp
  | otherError => simp
  | serverGone =>
      cases line.reconnects with
      | false => simp
      | true =>
          rw [if_pos rfl, List.countP_cons_of_neg (by simp)]
          exact List.countP_le_length

theorem cString_whole (sql : Bytes) : cString sql = sql ↔ 0 ∉ sql := by
  rw [cString, List.takeWhile_eq_self_iff]
  constructor
  · intro plain inside
    simpa using plain 0 inside
  · intro free byte inside
    have other : byte ≠ 0 := fun zero => free (zero ▸ inside)
    simpa using other

theorem proper_iff (line : Line) (call : Call) : Proper line call ↔ Fit line call := by
  obtain ⟨trace, -, value⟩ := perform_outcome call line
  cases held : line.tool.m_mysql with
  | false =>
      obtain ⟨silent, crashes⟩ := attempt_null call.text line held
      constructor
      · intro proper
        cases back : line.reconnects with
        | true =>
            obtain ⟨reply, sent⟩ := proper.resumed held back
            rw [trace, mem_statements, silent back] at sent
            cases sent
        | false =>
            obtain ⟨label, made, null⟩ := crashes back
            rw [proper.never_null label (trace ▸ made)] at null
            cases null
      · intro fit
        rw [Fit, held] at fit
        cases fit.1
  | true =>
      obtain ⟨⟨answer, returned, answered⟩, sent, fine⟩ := attempt_held call.text line held
      have truth : (perform call line).value = .ok true ↔ .done ∈ line.answers := by
        rw [value, returned, ← answered]
        simp [Except.map]
      have executed : ∀ sql, .query sql (some .done) ∈ (perform call line).trace ↔
          call.text = sql ∧ .done ∈ line.answers := by
        intro sql
        rw [trace, mem_statements, sent]
        simp [and_comm]
      constructor
      · intro proper
        refine ⟨held, ?_⟩
        rintro sql rfl zero success
        have whole := ((executed sql).mp ((proper.truthful sql rfl).mp (truth.mpr success))).1
        exact (cString_whole sql).mp whole zero
      · rintro ⟨-, uncut⟩
        constructor
        · rwa [trace]
        · exact fun null => absurd (held.symm.trans null) (by decide)
        · exact fun null => absurd (held.symm.trans null) (by decide)
        · rintro sql rfl
          rw [truth, executed]
          constructor
          · intro success
            exact ⟨(cString_whole sql).mpr fun zero => uncut sql rfl zero success, success⟩
          · exact And.right
        · rw [trace, sent, List.countP_map]
          simpa [Function.comp_def] using answers_once line

/-- Over any sequence of calls and outcomes, from any state of the tool: every
call keeps the protocol exactly if every call is made on an open handle and no
successful `Execute` has a zero byte in its statement. -/
theorem handle_protocol_iff (line : Line) (calls : List Call) :
    Along step Proper line calls ↔ Along step Fit line calls :=
  along_congr step proper_iff line calls

end Outcomes

/-! When a call leaves the handle null. -/
section Handles

theorem opened_held (target : Target) (library : Library)
    (first : library.connects library.connected = true) :
    (opened target library).tool.m_mysql = true := by
  simp [opened, connect, mysqlRealConnect, mysqlQuery, bind, Act.andThen, first, Line.setHandle,
    remember]

theorem sendAgain_handle (text : Bytes) (line : Line) (held : line.tool.m_mysql = true) :
    (sendAgain text line).state.tool.m_mysql = true := by
  rw [sendAgain, Act.bind_ok _ _ _ _ (by rw [mysqlQuery_held _ _ held]),
    mysqlQuery_held _ _ held]
  cases line.reply <;> exact held

theorem resend_handle (text : Bytes) (line : Line) :
    (resend text line).state.tool.m_mysql = line.reconnects := by
  obtain ⟨value, handle, -⟩ := reconnect_outcome line
  rw [resend, Act.bind_ok _ _ _ _ value]
  cases back : line.reconnects with
  | false => exact handle.trans back
  | true => exact sendAgain_handle text _ (handle.trans back)

/-- Only a server that is gone and a failed reconnect leave a null handle. -/
theorem handle_lost_iff (line : Line) (call : Call) (held : line.tool.m_mysql = true) :
    (perform call line).state.tool.m_mysql = false ↔
      line.reply = .serverGone ∧ line.reconnects = false := by
  rw [(perform_outcome call line).2.1, attempt, Act.gets_bind, held, if_pos rfl, send,
    Act.bind_ok _ _ _ _ (by rw [mysqlQuery_held _ _ held]), mysqlQuery_held _ _ held]
  cases reply : line.reply with
  | done => simp [held]
  | otherError => simp [held]
  | serverGone =>
      have last := resend_handle call.text
        { line with library := { line.library with queried := line.library.queried + 1 } }
      simp only [true_and, last]
      exact Iff.rfl

/-- The server is gone and cannot be reached; at the next call it can, or not. -/
theorem statement_dropped :
    (let library : Library := ⟨(· ≠ 1), fun _ => .serverGone, fun _ => 0, 0, 0⟩
    ¬ Along step Proper (opened ⟨[], [], [], [], 3306⟩ library)
      [.execute (text "x"), .execute (text "y")]) ∧
    (let library : Library := ⟨(· = 0), fun _ => .serverGone, fun _ => 0, 0, 0⟩
    ¬ Along step Proper (opened ⟨[], [], [], [], 3306⟩ library)
      [.execute (text "x"), .execute (text "y")]) := by
  constructor
  all_goals
    rintro library ⟨-, second, -⟩
    have held := ((proper_iff _ _).mp second).1
    revert held
    decide

end Handles

end EdoyumIM.DatabaseHandle
