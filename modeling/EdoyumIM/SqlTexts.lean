import EdoyumIM.QuotedText
import EdoyumIM.SqlStatements

/-!
The texts that UserManager hands to `MySQLTool::Execute`, byte by byte, and how
MySQL reads them. `Execute` passes a C string, so the text ends at its first
NUL; AddGroup and ReleaseFriendRelationship print theirs into a buffer of 256
bytes, and the group name is a C string before that.
-/

namespace EdoyumIM.SqlTexts

open MachineWords JsonValue UserStore QuotedText SqlStatements
open ChatServer (cString)

/-! The literals of MySQL. -/
section Literals

/-- `\%` and `\_` keep their backslash, and a backslash in front of any other byte
goes. -/
def denoted (letter : UInt8) : Bytes :=
  if letter = 0x30 then [0]            -- \0
  else if letter = 0x62 then [8]       -- \b
  else if letter = 0x6E then [10]      -- \n
  else if letter = 0x72 then [13]      -- \r
  else if letter = 0x74 then [9]       -- \t
  else if letter = 0x5A then [26]      -- \Z
  else if letter = 0x25 ∨ letter = 0x5F then [0x5C, letter]
  else [letter]

def mysql : Rules UInt8 where
  quote := 0x27
  slash := 0x5C
  denotes := denoted
  apart := by decide
  short := by
    intro letter
    unfold denoted
    split_ifs <;> simp
  quoteOne := by decide
  slashOne := by decide

end Literals

/-! The texts as the source assembles them. -/
section Texts

/-- What `snprintf` leaves of a text in a buffer of 256 bytes. -/
def snprintf256 (format : Bytes) : Bytes := format.take 255

def addUserText (userid : Int32) (username nickname password : Bytes) : Bytes :=
  text "INSERT INTO t_user (f_user_id,f_username,f_nickname,f_password,f_register_time)" ++
    text " VALUES(" ++ decimal userid ++ text ",'" ++ username ++ text "','" ++ nickname ++
    text "','" ++ password ++ text "',NOW());"

def addGroupText (groupid : Int32) (groupname : Bytes) (ownerid : Int32) : Bytes :=
  snprintf256
    (text "INSERT INTO t_user(f_user_id, f_username, f_nickname, f_password, f_owner_id, " ++
      text "f_register_time) VALUES(" ++ decimal groupid ++ text ", '" ++ decimal groupid ++
      text "', '" ++ cString groupname ++ text "', '', " ++ decimal ownerid ++
      text ",  NOW());")

def makeFriendRelationshipText (smallid greatid : Int32) : Bytes :=
  text "INSERT INTO t_user_relationship(f_user_id1, f_user_id2) VALUES(" ++ decimal smallid ++
    text "," ++ decimal greatid ++ text ") ;"

def releaseFriendRelationshipText (smallid greatid : Int32) : Bytes :=
  snprintf256 (text "DELETE FROM t_user_relationship WHERE f_user_id1 = " ++ decimal smallid ++
    text " AND f_user_id2 = " ++ decimal greatid ++ text " ;")

def updateUserInfoText (userid : Int32) (newuserinfo : User) : Bytes :=
  text "UPDATE t_user SET f_nickname='" ++ newuserinfo.nickname ++ text "', f_facetype=" ++
    decimal newuserinfo.facetype ++ text ", f_customface='" ++ newuserinfo.custimface ++
    text "', f_gender=" ++ decimal newuserinfo.gender ++ text ", f_birthday=" ++
    decimal newuserinfo.birthday ++ text ", f_signature='" ++ newuserinfo.signature ++
    text "', f_address='" ++ newuserinfo.address ++ text "', f_phonenumber='" ++
    newuserinfo.phonenumber ++ text "', f_mail='" ++ newuserinfo.mail ++
    text "' WHERE f_user_id=" ++ decimal userid ++ text ";"

def modifyUserPasswordText (userid : Int32) (newpassword : Bytes) : Bytes :=
  text "UPDATE t_user SET f_password='" ++ newpassword ++ text "' WHERE f_user_id=" ++
    decimal userid ++ text ";"

def saveChatMsgToDbText (senderid targetid : Int32) (chatmsg : Bytes) : Bytes :=
  text "INSERT INTO t_chatmsg(f_senderid, f_targetid, f_msgcontent) VALUES(" ++
    decimal senderid ++ text ", " ++ decimal targetid ++ text ", '" ++ chatmsg ++ text "');"

def sqlText : Statement → Bytes
  | .insertUser userid username nickname password => addUserText userid username nickname password
  | .insertGroup groupid groupname ownerid => addGroupText groupid groupname ownerid
  | .insertRelationship id1 id2 => makeFriendRelationshipText id1 id2
  | .deleteRelationship id1 id2 => releaseFriendRelationshipText id1 id2
  | .updateUserInfo userid newuserinfo => updateUserInfoText userid newuserinfo
  | .updatePassword userid newpassword => modifyUserPasswordText userid newpassword
  | .insertChatMsg senderid targetid chatmsg => saveChatMsgToDbText senderid targetid chatmsg

/-- What `mysql_query` is given. -/
def passed (statement : Statement) : Bytes := cString (sqlText statement)

end Texts

/-! What the texts are meant to say: strings between pieces of SQL. -/
section Shapes

def shape : Statement → Template UInt8
  | .insertUser userid username nickname password =>
      { lead :=
          text "INSERT INTO t_user (f_user_id,f_username,f_nickname,f_password,f_register_time)" ++
            text " VALUES(" ++ decimal userid ++ text ","
        fields := [(username, text ","), (nickname, text ","), (password, text ",NOW());")] }
  | .insertGroup groupid groupname ownerid =>
      { lead :=
          text "INSERT INTO t_user(f_user_id, f_username, f_nickname, f_password, f_owner_id, " ++
            text "f_register_time) VALUES(" ++ decimal groupid ++ text ", "
        fields := [(decimal groupid, text ", "), (groupname, text ", "),
          ([], text ", " ++ decimal ownerid ++ text ",  NOW());")] }
  | .insertRelationship id1 id2 =>
      { lead := text "INSERT INTO t_user_relationship(f_user_id1, f_user_id2) VALUES(" ++
          decimal id1 ++ text "," ++ decimal id2 ++ text ") ;"
        fields := [] }
  | .deleteRelationship id1 id2 =>
      { lead := text "DELETE FROM t_user_relationship WHERE f_user_id1 = " ++ decimal id1 ++
          text " AND f_user_id2 = " ++ decimal id2 ++ text " ;"
        fields := [] }
  | .updateUserInfo userid newuserinfo =>
      { lead := text "UPDATE t_user SET f_nickname="
        fields :=
          [(newuserinfo.nickname,
              text ", f_facetype=" ++ decimal newuserinfo.facetype ++ text ", f_customface="),
            (newuserinfo.custimface,
              text ", f_gender=" ++ decimal newuserinfo.gender ++ text ", f_birthday=" ++
                decimal newuserinfo.birthday ++ text ", f_signature="),
            (newuserinfo.signature, text ", f_address="),
            (newuserinfo.address, text ", f_phonenumber="),
            (newuserinfo.phonenumber, text ", f_mail="),
            (newuserinfo.mail, text " WHERE f_user_id=" ++ decimal userid ++ text ";")] }
  | .updatePassword userid newpassword =>
      { lead := text "UPDATE t_user SET f_password="
        fields := [(newpassword, text " WHERE f_user_id=" ++ decimal userid ++ text ";")] }
  | .insertChatMsg senderid targetid chatmsg =>
      { lead := text "INSERT INTO t_chatmsg(f_senderid, f_targetid, f_msgcontent) VALUES(" ++
          decimal senderid ++ text ", " ++ decimal targetid ++ text ", "
        fields := [(chatmsg, text ");")] }

/-- The strings are those of the statement. -/
theorem shape_strings (statement : Statement) :
    (shape statement).strings = (sqlOf statement).values.filterMap fun value =>
      match value with
      | .string data => some data
      | _ => none := by
  cases statement <;> rfl

/-- The statement as it reaches the buffer. -/
def asPrinted : Statement → Statement
  | .insertGroup groupid groupname ownerid => .insertGroup groupid (cString groupname) ownerid
  | other => other

def buffered : Statement → Bool
  | .insertGroup _ _ _ | .deleteRelationship _ _ => true
  | _ => false

theorem text_shape (template : Template UInt8) :
    template.text mysql = template.lead ++ template.fields.flatMap fun field =>
      [0x27] ++ field.1 ++ [0x27] ++ field.2 := by
  rw [Template.text]
  congr 1
  induction template.fields with
  | nil => rfl
  | cons field rest ih =>
      rw [Template.fieldsText, ih, List.flatMap_cons]
      simp [mysql]

theorem addUser_shape (userid : Int32) (username nickname password : Bytes) :
    addUserText userid username nickname password =
      (shape (.insertUser userid username nickname password)).text mysql := by
  have opens : text ",'" = text "," ++ [0x27] := by decide +kernel
  have between : text "','" = [0x27] ++ text "," ++ [0x27] := by decide +kernel
  have closes : text "',NOW());" = [0x27] ++ text ",NOW());" := by decide +kernel
  rw [addUserText, opens, between, closes, text_shape]
  simp only [shape, List.flatMap_cons, List.flatMap_nil, List.append_assoc, List.append_nil]

theorem addGroup_shape (groupid : Int32) (groupname : Bytes) (ownerid : Int32) :
    addGroupText groupid groupname ownerid =
      snprintf256 ((shape (.insertGroup groupid (cString groupname) ownerid)).text mysql) := by
  have opens : text ", '" = text ", " ++ [0x27] := by decide +kernel
  have between : text "', '" = [0x27] ++ text ", " ++ [0x27] := by decide +kernel
  have closes : text "', '', " = [0x27] ++ text ", " ++ [0x27] ++ [0x27] ++ text ", " := by
    decide +kernel
  rw [addGroupText, opens, between, closes, text_shape]
  simp only [shape, List.flatMap_cons, List.flatMap_nil, List.append_assoc, List.append_nil,
    List.nil_append]

theorem updateUserInfo_shape (userid : Int32) (newuserinfo : User) :
    updateUserInfoText userid newuserinfo =
      (shape (.updateUserInfo userid newuserinfo)).text mysql := by
  have nickname : text "UPDATE t_user SET f_nickname='" =
      text "UPDATE t_user SET f_nickname=" ++ [0x27] := by decide +kernel
  have facetype : text "', f_facetype=" = [0x27] ++ text ", f_facetype=" := by decide +kernel
  have customface : text ", f_customface='" = text ", f_customface=" ++ [0x27] := by
    decide +kernel
  have gender : text "', f_gender=" = [0x27] ++ text ", f_gender=" := by decide +kernel
  have signature : text ", f_signature='" = text ", f_signature=" ++ [0x27] := by decide +kernel
  have address : text "', f_address='" = [0x27] ++ text ", f_address=" ++ [0x27] := by
    decide +kernel
  have phonenumber : text "', f_phonenumber='" = [0x27] ++ text ", f_phonenumber=" ++ [0x27] := by
    decide +kernel
  have mail : text "', f_mail='" = [0x27] ++ text ", f_mail=" ++ [0x27] := by decide +kernel
  have closes : text "' WHERE f_user_id=" = [0x27] ++ text " WHERE f_user_id=" := by
    decide +kernel
  unfold updateUserInfoText
  rw [nickname, facetype, customface, gender, signature, address, phonenumber,
    mail, closes, text_shape]
  simp only [shape, List.flatMap_cons, List.flatMap_nil, List.append_assoc, List.append_nil]

theorem modifyUserPassword_shape (userid : Int32) (newpassword : Bytes) :
    modifyUserPasswordText userid newpassword =
      (shape (.updatePassword userid newpassword)).text mysql := by
  have opens : text "UPDATE t_user SET f_password='" =
      text "UPDATE t_user SET f_password=" ++ [0x27] := by decide +kernel
  have closes : text "' WHERE f_user_id=" = [0x27] ++ text " WHERE f_user_id=" := by
    decide +kernel
  rw [modifyUserPasswordText, opens, closes, text_shape]
  simp only [shape, List.flatMap_cons, List.flatMap_nil, List.append_assoc, List.append_nil]

theorem saveChatMsg_shape (senderid targetid : Int32) (chatmsg : Bytes) :
    saveChatMsgToDbText senderid targetid chatmsg =
      (shape (.insertChatMsg senderid targetid chatmsg)).text mysql := by
  have opens : text ", '" = text ", " ++ [0x27] := by decide +kernel
  have closes : text "');" = [0x27] ++ text ");" := by decide +kernel
  rw [saveChatMsgToDbText, opens, closes, text_shape]
  simp only [shape, List.flatMap_cons, List.flatMap_nil, List.append_assoc, List.append_nil]

theorem sqlText_shape (statement : Statement) :
    sqlText statement =
      if buffered statement then snprintf256 ((shape (asPrinted statement)).text mysql)
      else (shape statement).text mysql := by
  cases statement with
  | insertUser userid username nickname password => exact addUser_shape _ _ _ _
  | insertGroup groupid groupname ownerid => exact addGroup_shape _ _ _
  | insertRelationship id1 id2 => exact (List.append_nil _).symm
  | deleteRelationship id1 id2 => exact congrArg snprintf256 (List.append_nil _).symm
  | updateUserInfo userid newuserinfo => exact updateUserInfo_shape _ _
  | updatePassword userid newpassword => exact modifyUserPassword_shape _ _
  | insertChatMsg senderid targetid chatmsg => exact saveChatMsg_shape _ _ _

end Shapes

/-! The pieces between the strings hold neither a quote nor a NUL. -/
section Pieces

def Quiet (piece : Bytes) : Prop := 0x27 ∉ piece ∧ 0 ∉ piece

instance (piece : Bytes) : Decidable (Quiet piece) := inferInstanceAs (Decidable (_ ∧ _))

theorem quiet_append {left right : Bytes} (one : Quiet left) (other : Quiet right) :
    Quiet (left ++ right) := by
  simp only [Quiet, List.mem_append, not_or]
  exact ⟨⟨one.1, other.1⟩, one.2, other.2⟩

theorem quiet_digits (value : Nat) :
    Quiet ((Nat.toDigits 10 value).map fun letter => UInt8.ofNat letter.toNat) := by
  have digit : ∀ letter ∈ Nat.toDigits 10 value, 48 ≤ letter.toNat ∧ letter.toNat ≤ 57 := by
    intro letter member
    have holds := Nat.isDigit_of_mem_toDigits (by decide) (by decide) member
    simpa [Char.isDigit, UInt32.le_iff_toNat_le] using holds
  constructor
  all_goals
    intro member
    obtain ⟨letter, inside, same⟩ := List.mem_map.mp member
    obtain ⟨low, high⟩ := digit letter inside
    have value := congrArg UInt8.toNat same
    rw [UInt8.toNat_ofNat'] at value
    simp at value
    omega

theorem quiet_decimal (value : Int32) : Quiet (decimal value) := by
  rw [decimal]
  split_ifs
  · exact quiet_append (by decide +kernel) (quiet_digits _)
  · exact quiet_digits _

/-- A piece behind a string. -/
def Behind (piece : Bytes) : Prop := piece ≠ [] ∧ Quiet piece

instance (piece : Bytes) : Decidable (Behind piece) := inferInstanceAs (Decidable (_ ∧ _))

theorem quiet_number {left right : Bytes} (value : Int32) (one : Quiet left) (other : Quiet right) :
    Quiet (left ++ decimal value ++ right) :=
  quiet_append (quiet_append one (quiet_decimal value)) other

theorem behind_number {left right : Bytes} (value : Int32) (one : Behind left)
    (other : Quiet right) : Behind (left ++ decimal value ++ right) := by
  refine ⟨?_, quiet_number value one.2 other⟩
  rw [List.append_assoc]
  exact List.append_ne_nil_of_left_ne_nil one.1 _

/-- The end of both updates. -/
theorem behind_key (userid : Int32) :
    Behind (text " WHERE f_user_id=" ++ decimal userid ++ text ";") :=
  behind_number userid (by decide +kernel) (by decide +kernel)

structure QuietShape (template : Template UInt8) : Prop where
  lead : Quiet template.lead
  behind : ∀ field ∈ template.fields, Behind field.2

theorem QuietShape.sound {template : Template UInt8} (quiet : QuietShape template) :
    template.Sound mysql where
  lead := quiet.lead.1
  behind field member := ⟨(quiet.behind field member).1, (quiet.behind field member).2.1⟩

theorem quiet_shape (statement : Statement) : QuietShape (shape statement) := by
  cases statement with
  | insertUser userid username nickname password =>
      constructor
      · exact quiet_number userid (by decide +kernel) (by decide +kernel)
      · simp only [shape, List.forall_mem_cons]
        exact ⟨by decide +kernel, by decide +kernel, by decide +kernel, nofun⟩
  | insertGroup groupid groupname ownerid =>
      have owner : Behind (text ", " ++ decimal ownerid ++ text ",  NOW());") :=
        behind_number ownerid (by decide +kernel) (by decide +kernel)
      constructor
      · exact quiet_number groupid (by decide +kernel) (by decide +kernel)
      · simp only [shape, List.forall_mem_cons]
        exact ⟨by decide +kernel, by decide +kernel, owner, nofun⟩
  | insertRelationship id1 id2 =>
      have first : Quiet (text "INSERT INTO t_user_relationship(f_user_id1, f_user_id2) VALUES(" ++
          decimal id1 ++ text ",") := quiet_number id1 (by decide +kernel) (by decide +kernel)
      exact ⟨quiet_number id2 first (by decide +kernel), nofun⟩
  | deleteRelationship id1 id2 =>
      have first : Quiet (text "DELETE FROM t_user_relationship WHERE f_user_id1 = " ++
          decimal id1 ++ text " AND f_user_id2 = ") :=
        quiet_number id1 (by decide +kernel) (by decide +kernel)
      exact ⟨quiet_number id2 first (by decide +kernel), nofun⟩
  | updateUserInfo userid newuserinfo =>
      have facetype : Behind (text ", f_facetype=" ++ decimal newuserinfo.facetype ++
          text ", f_customface=") :=
        behind_number newuserinfo.facetype (by decide +kernel) (by decide +kernel)
      have gender : Behind (text ", f_gender=" ++ decimal newuserinfo.gender ++
          text ", f_birthday=") :=
        behind_number newuserinfo.gender (by decide +kernel) (by decide +kernel)
      have birthday := behind_number newuserinfo.birthday gender
        (show Quiet (text ", f_signature=") by decide +kernel)
      constructor
      · show Quiet (text "UPDATE t_user SET f_nickname=")
        decide +kernel
      · simp only [shape, List.forall_mem_cons]
        exact ⟨facetype, birthday, by decide +kernel, by decide +kernel, by decide +kernel,
          behind_key userid, nofun⟩
  | updatePassword userid newpassword =>
      constructor
      · show Quiet (text "UPDATE t_user SET f_password=")
        decide +kernel
      · simp only [shape, List.forall_mem_cons]
        exact ⟨behind_key userid, nofun⟩
  | insertChatMsg senderid targetid chatmsg =>
      have sender : Quiet
          (text "INSERT INTO t_chatmsg(f_senderid, f_targetid, f_msgcontent) VALUES(" ++
            decimal senderid ++ text ", ") :=
        quiet_number senderid (by decide +kernel) (by decide +kernel)
      constructor
      · exact quiet_number targetid sender (by decide +kernel)
      · simp only [shape, List.forall_mem_cons]
        exact ⟨by decide +kernel, nofun⟩

theorem mem_shape_text (statement : Statement) :
    0 ∈ (shape statement).text mysql ↔ ∃ string ∈ (shape statement).strings, 0 ∈ string := by
  have quiet := quiet_shape statement
  rw [Template.text, List.mem_append, or_iff_right quiet.lead.2, Template.mem_fieldsText,
    Template.strings]
  simp only [List.mem_map, exists_exists_and_eq_and]
  refine exists_congr fun field => and_congr_right fun member => ?_
  rw [or_iff_right (by decide : (0 : UInt8) ≠ mysql.quote),
    or_iff_left (quiet.behind field member).2.2]

end Pieces

/-! How the texts are read. -/
section Readings

theorem cString_length (data : Bytes) : (cString data).length ≤ data.length :=
  (List.takeWhile_sublist _).length_le

theorem cString_eq_iff (data : Bytes) : cString data = data ↔ 0 ∉ data := by
  rw [cString, List.takeWhile_eq_self_iff]
  constructor
  · intro plain member
    exact absurd (plain 0 member) (by decide)
  · intro absent letter member
    exact decide_eq_true fun same => absent (same ▸ member)

theorem cString_whole (data : Bytes) (whole : data.length ≤ (cString data).length) :
    cString data = data :=
  (List.takeWhile_sublist _).eq_of_length_le whole

/-- The statement that MySQL reads is the intended one, with the supplied strings
in its literals. -/
def ReadAsMeant (statement : Statement) : Prop :=
  lex mysql .outside (passed statement) = some (shape statement).symbols

structure Harmless (statement : Statement) : Prop where
  strings : ∀ string ∈ (shape statement).strings, Inert mysql string ∧ 0 ∉ string
  short : buffered statement = true → ((shape statement).text mysql).length ≤ 255

/-- A group name that is cut shortens the text. -/
theorem asPrinted_length (statement : Statement) :
    ((shape (asPrinted statement)).text mysql).length ≤ ((shape statement).text mysql).length ∧
      (((shape statement).text mysql).length ≤ ((shape (asPrinted statement)).text mysql).length →
        asPrinted statement = statement) := by
  cases statement with
  | insertGroup groupid groupname ownerid =>
      have sizes (name : Bytes) : ((shape (.insertGroup groupid name ownerid)).text mysql).length =
          ((shape (.insertGroup groupid [] ownerid)).text mysql).length + name.length := by
        simp only [text_shape, shape, List.flatMap_cons, List.length_append]
        simp
        omega
      have cut := cString_length groupname
      simp only [asPrinted]
      rw [sizes groupname, sizes (cString groupname)]
      refine ⟨by omega, fun long => ?_⟩
      rw [cString_whole groupname (by omega)]
  | _ => exact ⟨le_rfl, fun _ => rfl⟩

theorem snprintf256_eq_iff (format : Bytes) :
    snprintf256 format = format ↔ format.length ≤ 255 := List.take_eq_self_iff _

theorem sqlText_length (statement : Statement) :
    (sqlText statement).length ≤ ((shape (asPrinted statement)).text mysql).length := by
  rw [sqlText_shape]
  cases cut : buffered statement with
  | true =>
      rw [if_pos rfl, snprintf256, List.length_take]
      exact min_le_right _ _
  | false =>
      cases statement with
      | insertGroup groupid groupname ownerid => cases cut
      | deleteRelationship id1 id2 => cases cut
      | _ => exact le_rfl

theorem sqlText_short (statement : Statement) (printed : buffered statement = true) :
    (sqlText statement).length ≤ 255 := by
  rw [sqlText_shape, if_pos printed, snprintf256, List.length_take]
  exact min_le_left _ _

/-- A text that reaches MySQL whole is that of its shape. -/
theorem passed_whole (statement : Statement)
    (whole : ((shape statement).text mysql).length ≤ (passed statement).length) :
    passed statement = (shape statement).text mysql ∧
      (buffered statement = true → ((shape statement).text mysql).length ≤ 255) := by
  obtain ⟨cut, same⟩ := asPrinted_length statement
  have printed := sqlText_length statement
  have ended := cString_length (sqlText statement)
  rw [passed] at whole
  have exact' := same (by omega)
  have short : buffered statement = true → ((shape statement).text mysql).length ≤ 255 :=
    fun stays => (whole.trans ended).trans (sqlText_short statement stays)
  refine ⟨?_, short⟩
  rw [passed, cString_whole _ (by omega), sqlText_shape, exact']
  cases stays : buffered statement with
  | true => exact (snprintf256_eq_iff _).mpr (short stays)
  | false => rfl

theorem harmless_of_read (statement : Statement) (read : ReadAsMeant statement) :
    Harmless statement := by
  have inert := lex_template_iff mysql (shape statement) (quiet_shape statement).sound
  obtain ⟨whole, short⟩ := passed_whole statement
    (Template.length_of_lex mysql (shape statement) _ read)
  rw [ReadAsMeant, whole, inert] at read
  refine ⟨fun string member => ⟨read string member, fun nul => ?_⟩, short⟩
  have ends := (mem_shape_text statement).mpr ⟨string, member, nul⟩
  rw [← whole] at ends
  exact absurd (List.mem_takeWhile_imp ends) (by decide)

theorem read_of_harmless (statement : Statement) (harmless : Harmless statement) :
    ReadAsMeant statement := by
  have inert := lex_template_iff mysql (shape statement) (quiet_shape statement).sound
  have absent : 0 ∉ (shape statement).text mysql := by
    rw [mem_shape_text statement]
    rintro ⟨string, member, nul⟩
    exact (harmless.strings string member).2 nul
  have printed : sqlText statement = (shape statement).text mysql := by
    rw [sqlText_shape]
    cases cut : buffered statement with
    | true =>
        have name : asPrinted statement = statement := by
          cases statement with
          | insertGroup groupid groupname ownerid =>
              have plain : cString groupname = groupname := (cString_eq_iff groupname).mpr
                (harmless.strings groupname (by simp [shape, Template.strings])).2
              rw [asPrinted, plain]
          | _ => rfl
        rw [if_pos rfl, name, snprintf256_eq_iff]
        exact harmless.short cut
    | false => rfl
  rw [ReadAsMeant, passed, printed, (cString_eq_iff _).mpr absent, inert]
  exact fun string member => (harmless.strings string member).1

/-- Of every statement that UserManager builds, with any strings: MySQL reads it
as meant if and only if no string holds a quote or a NUL, every backslash stands
in front of a percent sign or an underscore, and a text that is printed into a
buffer fits there. -/
theorem read_as_meant_iff (statement : Statement) :
    ReadAsMeant statement ↔ Harmless statement :=
  ⟨harmless_of_read statement, read_of_harmless statement⟩

theorem plain_inert (data : Bytes) (holds : plain data) : Inert mysql data ∧ 0 ∉ data := by
  refine ⟨?_, fun nul => (holds 0 nul).2.2 rfl⟩
  induction data with
  | nil => trivial
  | cons letter rest ih =>
      obtain ⟨⟨noQuote, noSlash, -⟩, later⟩ := List.forall_mem_cons.mp holds
      exact ⟨noQuote, fun slash => absurd slash noSlash, ih later⟩

/-- What SqlStatements takes for granted of texts whose strings are all plain. -/
theorem plain_read (statement : Statement)
    (holds : ∀ string ∈ (shape statement).strings, plain string)
    (short : buffered statement = true → ((shape statement).text mysql).length ≤ 255) :
    ReadAsMeant statement :=
  read_of_harmless statement
    ⟨fun string member => plain_inert string (holds string member), short⟩

/-- A new password that sets the user name too; a message that ends in a backslash,
one that holds a NUL, and a group name of 200 letters, each of which leaves a
string open. -/
theorem texts_misread :
    let password := text "x', f_username='y"
    let name := List.replicate 200 (103 : UInt8)
    lex mysql .outside (passed (.updatePassword 1 password)) =
      some ({ lead := text "UPDATE t_user SET f_password="
              fields := [(text "x", text ", f_username="), (text "y", text " WHERE f_user_id=1;")] }
            : Template UInt8).symbols ∧
    ¬ ReadAsMeant (.updatePassword 1 password) ∧
    lex mysql .outside (passed (.insertChatMsg 1 2 [92])) = none ∧
    lex mysql .outside (passed (.insertChatMsg 1 2 [0])) = none ∧
    lex mysql .outside (passed (.insertGroup 268435456 name 1)) = none := by
  intro password name
  refine ⟨by decide +kernel, ?_, by decide +kernel, by decide +kernel, by decide +kernel⟩
  rw [ReadAsMeant]
  decide +kernel

end Readings

end EdoyumIM.SqlTexts
