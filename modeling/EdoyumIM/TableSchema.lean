import EdoyumIM.OrderedStore

/-!
The tables that the constructor of MySqlManager declares. `m_mapTable` and
`mapField` are maps by name; the members that say a name again agree with the
key, which both structures carry as a field. `sType` is the text behind the
column name in a statement, `sDesc` the type that `desc` is expected to show.
-/

namespace EdoyumIM.TableSchema

open OrderedStore

structure FieldInfo where
  sName : String
  sType : String
  sDesc : String
  deriving DecidableEq, Repr

structure TableInfo where
  sName : String
  mapField : OrderedMap String FieldInfo
  sKey : String
  named : ∀ entry ∈ mapField.entries, entry.1 = entry.2.sName

structure Schema where
  tables : OrderedMap String TableInfo
  named : ∀ entry ∈ tables.entries, entry.1 = entry.2.sName

section Declarations

def TableInfo.declare (info : TableInfo) (field : FieldInfo) : TableInfo where
  sName := info.sName
  mapField := info.mapField.insert field.sName field
  sKey := info.sKey
  named := by
    intro entry member
    rcases mem_insertBy Prod.fst _ entry _ member with rfl | old
    · rfl
    · exact info.named entry old

def TableInfo.ofFields (sName sKey : String) (fields : List FieldInfo) : TableInfo :=
  fields.foldl TableInfo.declare ⟨sName, OrderedMap.empty, sKey, by simp [OrderedMap.empty]⟩

def Schema.declare (schema : Schema) (info : TableInfo) : Schema where
  tables := schema.tables.insert info.sName info
  named := by
    intro entry member
    rcases mem_insertBy Prod.fst _ entry _ member with rfl | old
    · rfl
    · exact schema.named entry old

def userFields : List FieldInfo :=
  [⟨"f_id", "bigint(20) NOT NULL AUTO_INCREMENT COMMENT  '自增ID'", "bigint(20)"⟩,
    ⟨"f_user_id", "bigint(20) NOT NULL COMMENT  '用户ID'", "bigint(20)"⟩,
    ⟨"f_username", "varchar(64) NOT NULL COMMENT  '用户名'", "varchar(64)"⟩,
    ⟨"f_nickname", "varchar(64) NOT NULL COMMENT  '用户昵称'", "varchar(64)"⟩,
    ⟨"f_password", "varchar(64) NOT NULL COMMENT  '用户密码'", "varchar(64)"⟩,
    ⟨"f_facetype", "int(10) DEFAULT 0 COMMENT  '用户头像类型'", "int(10)"⟩,
    ⟨"f_customface", "varchar(32) DEFAULT NULL COMMENT  '自定义头像名'", "varchar(32)"⟩,
    ⟨"f_customfacefmt", "varchar(6) DEFAULT NULL COMMENT  '自定义头像格式'", "varchar(6)"⟩,
    ⟨"f_gender", "int(2) DEFAULT 0 COMMENT  '性别'", "int(2)"⟩,
    ⟨"f_birthday", "bigint(20) DEFAULT 19900101 COMMENT  '生日'", "bigint(20)"⟩,
    ⟨"f_signature", "varchar(256) DEFAULT NULL COMMENT  '地址'", "varchar(256)"⟩,
    ⟨"f_address", "varchar(256) DEFAULT NULL COMMENT  '地址'", "varchar(256)"⟩,
    ⟨"f_phonenumber", "varchar(64) DEFAULT NULL COMMENT  '电话'", "varchar(64)"⟩,
    ⟨"f_mail", "varchar(256) DEFAULT NULL COMMENT  '邮箱'", "varchar(256)"⟩,
    ⟨"f_owner", "bigint(20) DEFAULT 0 COMMENT  '群账号群主userid'", "bigint(20)"⟩,
    ⟨"f_register_time", "datetime NOT NULL  COMMENT  '注册时间'", "datetime"⟩,
    ⟨"f_remark", "varchar(64) NULL COMMENT  '备注'", "varchar(64)"⟩,
    ⟨"f_update_time",
      "timestamp NOT NULL DEFAULT CURRENT_TIMESTAMP ON UPDATE CURRENT_TIMESTAMP COMMENT '更新时间'",
      "timestamp"⟩]

def chatmsgFields : List FieldInfo :=
  [⟨"f_id", "bigint(20) NOT NULL AUTO_INCREMENT COMMENT  '自增ID'", "bigint(20)"⟩,
    ⟨"f_senderid", "bigint(20) NOT NULL COMMENT  '发送者id'", "bigint(20)"⟩,
    ⟨"f_targetid", "bigint(20) NOT NULL COMMENT  '接收者id'", "bigint(20)"⟩,
    ⟨"f_msgcontent", "blob NOT NULL COMMENT  '聊天内容'", "blob"⟩,
    ⟨"f_create_time",
      "timestamp NOT NULL DEFAULT CURRENT_TIMESTAMP ON UPDATE CURRENT_TIMESTAMP COMMENT '更新时间'",
      "timestamp"⟩,
    ⟨"f_remark", "varchar(64) NULL COMMENT  '备注'", "varchar(64)"⟩]

def relationshipFields : List FieldInfo :=
  [⟨"f_id", "bigint(20) NOT NULL AUTO_INCREMENT COMMENT  '自增ID'", "bigint(20)"⟩,
    ⟨"f_user_id1", "bigint(20) NOT NULL COMMENT  '用户ID'", "bigint(20)"⟩,
    ⟨"f_user_id2", "bigint(20) NOT NULL COMMENT  '用户ID'", "bigint(20)"⟩,
    ⟨"f_remark", "varchar(64) NULL COMMENT  '备注'", "varchar(64)"⟩,
    ⟨"f_create_time",
      "timestamp NOT NULL DEFAULT CURRENT_TIMESTAMP ON UPDATE CURRENT_TIMESTAMP COMMENT '更新时间'",
      "timestamp"⟩]

def userInfo : TableInfo :=
  .ofFields "t_user" "PRIMARY KEY (f_user_id),INDEX f_user_id (f_user_id),KEY f_id (f_id)"
    userFields

def chatmsgInfo : TableInfo :=
  .ofFields "t_chatmsg" "PRIMARY KEY (f_id),INDEX f_id (f_id)" chatmsgFields

def relationshipInfo : TableInfo :=
  .ofFields "t_user_relationship" "PRIMARY KEY (f_id),INDEX f_id (f_id)" relationshipFields

/-- The constructor of MySqlManager. -/
def m_mapTable : Schema :=
  ((Schema.declare ⟨OrderedMap.empty, by simp [OrderedMap.empty]⟩ userInfo).declare
    chatmsgInfo).declare relationshipInfo

end Declarations

section Lookups

def TableInfo.fields (info : TableInfo) : List FieldInfo := info.mapField.values

theorem find?_field (info : TableInfo) (name : String) (field : FieldInfo) :
    info.mapField.find? name = some field ↔ field ∈ info.fields ∧ field.sName = name := by
  rw [OrderedMap.find?_iff]
  constructor
  · intro member
    exact ⟨List.mem_map.mpr ⟨_, member, rfl⟩, (info.named _ member).symm⟩
  · rintro ⟨member, rfl⟩
    obtain ⟨entry, inside, rfl⟩ := List.mem_map.mp member
    rwa [← info.named entry inside]

/-- A name picks one field. -/
theorem field_unique (info : TableInfo) (left right : FieldInfo) (one : left ∈ info.fields)
    (other : right ∈ info.fields) (same : left.sName = right.sName) : left = right := by
  have first := (find?_field info left.sName left).mpr ⟨one, rfl⟩
  rw [(find?_field info left.sName right).mpr ⟨other, same.symm⟩] at first
  exact (Option.some.inj first).symm

theorem names_nodup (schema : Schema) :
    (schema.tables.values.map TableInfo.sName).Nodup := by
  have keys : schema.tables.values.map TableInfo.sName = schema.tables.entries.map Prod.fst := by
    rw [OrderedMap.values, List.map_map]
    exact List.map_congr_left fun entry member => (schema.named entry member).symm
  rw [keys, List.Nodup, List.pairwise_map]
  exact schema.tables.ascending.imp fun before => before.ne

end Lookups

end EdoyumIM.TableSchema
