import EdoyumIM.Md5

/-!
What the MD5 class computes over whole runs. The bytes since the last reset are
the message, however they came in; the part of the buffer in use holds what is
left of it behind its full blocks, and every digest is that of the padded
message. Taking one in a last block with 56 bytes or more overwrites the start
of the buffer, which nothing restores: what is left is read off here as well.
-/

namespace EdoyumIM.Md5

open MachineWords ByteFiles BlockHashing

/-! The digest of a message, by its blocks. -/
section Messages

def padded (message : Bytes) : Bytes :=
  message ++ (0x80 :: List.replicate ((119 - message.length % 64) % 64) 0 ++
    leBytes 8 (8 * message.length))

def hash (message : Bytes) : Bytes :=
  encode ((blocks 64 ((padded message).length / 64) (padded message)).foldl transform initial).list

theorem padded_whole (message : Bytes) :
    (padded message).length = 64 * ((padded message).length / 64) := by
  simp only [padded, List.length_append, List.length_cons, List.length_replicate, leBytes_length]
  omega

abbrev start (state : Words) : Progress Words UInt8 64 := fresh (by decide) state

def taken (message : Bytes) : Progress Words UInt8 64 := absorb transform (start initial) message

theorem taken_append (message input : Bytes) :
    taken (message ++ input) = absorb transform (taken message) input :=
  absorb_append transform _ message input

theorem taken_length (message : Bytes) : (taken message).pending.length = message.length % 64 := by
  rw [taken, absorb_length]
  simp [fresh]

/-- Behind whole blocks, the rest of a block is only kept. -/
theorem taken_rest (front back : Bytes) (whole : front.length % 64 = 0)
    (rest : back.length < 64) :
    (taken (front ++ back)).chain = (taken front).chain ∧
      (taken (front ++ back)).pending = back := by
  have none : (taken front).pending = [] :=
    List.eq_nil_of_length_eq_zero (by rw [taken_length, whole])
  have short := absorb_short transform (taken front) back (by rw [none]; simpa using rest)
  rw [taken_append]
  exact ⟨short.1, by rw [short.2, none, List.nil_append]⟩

theorem hash_taken (message : Bytes) :
    hash message = encode (taken (padded message)).chain.list := by
  rw [hash, taken, absorb_blocks transform (by decide) initial _ _ (padded_whole message)]
  rfl

end Messages

/-! Numbers of bits. -/
section Counts

theorem leBytes_mod (width value : Nat) :
    leBytes width (value % 256 ^ width) = leBytes width value := by
  have same := leBytes_leNat (leBytes width value)
  rwa [leBytes_length, leNat_leBytes] at same

theorem leBytes_add (low high value : Nat) :
    leBytes (low + high) value = leBytes low value ++ leBytes high (value / 256 ^ low) := by
  induction low generalizing value with
  | zero => simp [leBytes]
  | succ low ih =>
      rw [Nat.add_right_comm, leBytes, leBytes, ih, List.cons_append, Nat.div_div_eq_div_mul,
        pow_succ, Nat.mul_comm (256 ^ low)]

/-- The two words of a count, in the order they are stored. -/
def bitsOf (md5 : MD5) : Nat := md5.count0.toNat + 2 ^ 32 * md5.count1.toNat

theorem encode_count (md5 : MD5) (length : Nat) (bits : bitsOf md5 = 8 * length % 2 ^ 64) :
    encode [md5.count0, md5.count1] = leBytes 8 (8 * length) := by
  have low := md5.count0.toNat_lt
  have first : leBytes 4 (bitsOf md5) = leBytes 4 md5.count0.toNat := by
    rw [← leBytes_mod 4 (bitsOf md5), bitsOf]
    congr 1
    omega
  have second : bitsOf md5 / 256 ^ 4 = md5.count1.toNat := by
    rw [bitsOf]
    omega
  calc encode [md5.count0, md5.count1]
      = leBytes 4 (bitsOf md5) ++ leBytes 4 (bitsOf md5 / 256 ^ 4) := by
        rw [first, second]
        simp [encode]
    _ = leBytes 8 (bitsOf md5) := (leBytes_add 4 4 (bitsOf md5)).symm
    _ = leBytes 8 (8 * length) := by
        rw [bits]
        exact leBytes_mod 8 (8 * length)

theorem index_eq (md5 : MD5) (length : Nat) (bits : bitsOf md5 = 8 * length % 2 ^ 64) :
    md5.index = length % 64 := by
  have low := md5.count0.toNat_lt
  have shifted : (md5.count0 >>> 3).toNat = md5.count0.toNat / 8 := by
    rw [UInt32.toNat_shiftRight]
    exact Nat.shiftRight_eq_div_pow md5.count0.toNat 3
  rw [MD5.index, UInt32.toNat_and, shifted]
  have masked : md5.count0.toNat / 8 &&& 63 = md5.count0.toNat / 8 % 64 :=
    Nat.and_two_pow_sub_one_eq_mod (md5.count0.toNat / 8) 6
  change md5.count0.toNat / 8 &&& 63 = _
  rw [masked]
  rw [bitsOf] at bits
  omega

theorem countBits_bits (md5 : MD5) (length added : Nat) (small : added < 2 ^ 32)
    (bits : bitsOf md5 = 8 * length % 2 ^ 64) :
    bitsOf (md5.countBits added) = 8 * (length + added) % 2 ^ 64 := by
  have low := md5.count0.toNat_lt
  have high := md5.count1.toNat_lt
  have word : (UInt32.ofNat added).toNat = added := UInt32.toNat_ofNat_of_lt' small
  have left : (UInt32.ofNat added <<< 3).toNat = 8 * added % 2 ^ 32 := by
    rw [UInt32.toNat_shiftLeft, word, Nat.shiftLeft_eq]
    change added * 2 ^ 3 % 2 ^ 32 = _
    omega
  have right : (UInt32.ofNat added >>> 29).toNat = added / 2 ^ 29 := by
    rw [UInt32.toNat_shiftRight, word]
    exact Nat.shiftRight_eq_div_pow added 29
  rw [bitsOf] at bits ⊢
  simp only [MD5.countBits, UInt32.lt_iff_toNat_lt, UInt32.toNat_add, left, right]
  split_ifs with carry
  · simp only [UInt32.toNat_add, UInt32.toNat_one]
    omega
  · omega

end Counts

/-! What an object holds of the message. -/
section Updates

structure Holds (md5 : MD5) (message : Bytes) : Prop where
  room : md5.buffer.length = 64
  bits : bitsOf md5 = 8 * message.length % 2 ^ 64
  chain : md5.state = (taken message).chain
  pending : md5.buffer.take (message.length % 64) = (taken message).pending
  unfinished : md5.finished = false

theorem new_holds (buffer digest : Bytes) (room : buffer.length = 64) :
    Holds (MD5.new buffer digest) [] :=
  ⟨room, rfl, rfl, rfl, rfl⟩

theorem reset_holds (md5 : MD5) (message : Bytes) (holds : Holds md5 message) :
    Holds md5.reset [] :=
  ⟨holds.room, rfl, rfl, rfl, rfl⟩

/-- The loop over whole blocks leaves what is less than one. -/
theorem transformLoop_absorbs (input : Bytes) (short : input.length + 63 < 2 ^ 32) (fuel : Nat)
    (i : UInt32) (state : Words) (reached : i.toNat ≤ input.length)
    (enough : input.length < i.toNat + fuel) :
    ∃ next chained, MD5.transformLoop input fuel i state = some (next, chained) ∧
      (absorb transform (start state) (input.drop i.toNat)).chain = chained ∧
      (absorb transform (start state) (input.drop i.toNat)).pending = input.drop next.toNat ∧
      input.length < next.toNat + 64 := by
  induction fuel generalizing i state with
  | zero => omega
  | succ fuel ih =>
      have ahead : (i + 63).toNat = i.toNat + 63 := by
        rw [UInt32.toNat_add]
        exact Nat.mod_eq_of_lt (by change i.toNat + 63 < 2 ^ 32; omega)
      rw [MD5.transformLoop, ahead]
      by_cases more : i.toNat + 63 < input.length
      · have stepped : (i + 64).toNat = i.toNat + 64 := by
          rw [UInt32.toNat_add]
          exact Nat.mod_eq_of_lt (by change i.toNat + 64 < 2 ^ 32; omega)
        have block : ((input.drop i.toNat).take 64).length = 64 := by
          rw [List.length_take, List.length_drop]
          omega
        obtain ⟨full, empty⟩ := absorb_fill transform (start state) ((input.drop i.toNat).take 64)
          (by rw [block]; rfl)
        have first : absorb transform (start state) ((input.drop i.toNat).take 64) =
            start (transform state ((input.drop i.toNat).take 64)) :=
          Progress.ext full empty
        have split : input.drop i.toNat =
            (input.drop i.toNat).take 64 ++ input.drop (i.toNat + 64) := by
          rw [← List.drop_drop, List.take_append_drop]
        obtain ⟨next, chained, loop, chain, pending, close⟩ := ih (i + 64)
          (transform state ((input.drop i.toNat).take 64)) (by omega) (by omega)
        rw [stepped] at chain pending
        rw [if_pos more]
        refine ⟨next, chained, loop, ?_, ?_, close⟩
        · rw [split, absorb_append, first, chain]
        · rw [split, absorb_append, first, pending]
      · have rest := absorb_short transform (start state) (input.drop i.toNat) (by
          simp only [fresh, List.length_nil, List.length_drop]
          omega)
        rw [if_neg more]
        exact ⟨i, state, rfl, rest.1, rest.2, by omega⟩

/-- Input that does not fill the block. -/
theorem update_within (md5 : MD5) (message input : Bytes) (holds : Holds md5 message)
    (part : message.length % 64 + input.length < 64) :
    ∃ next, md5.update input = some next ∧ Holds next (message ++ input) := by
  have kept := taken_length message
  have count := countBits_bits md5 message.length input.length (by omega) holds.bits
  have within : message.length % 64 ≤ md5.buffer.length := by
    rw [holds.room]
    omega
  obtain ⟨chain, pending⟩ := absorb_short transform (taken message) input (by rwa [kept])
  rw [← taken_append] at chain pending
  have rest : (message ++ input).length % 64 = message.length % 64 + input.length := by
    rw [List.length_append]
    omega
  rw [← List.length_append] at count
  rw [MD5.update, index_eq md5 message.length holds.bits, if_neg (by omega)]
  refine ⟨_, rfl, ?_, count, holds.chain.trans chain.symm, ?_, rfl⟩
  · rw [writeAt_within _ _ _ within]
    simp only [List.length_append, List.length_take, List.length_drop, holds.room]
    omega
  · rw [writeAt_within _ _ _ within, holds.pending, rest, pending, ← List.append_assoc]
    exact List.take_left' (by rw [List.length_append, kept])

/-- Input that fills the block; what the block was stays behind the rest. -/
theorem update_beyond (md5 : MD5) (message input : Bytes) (holds : Holds md5 message)
    (short : input.length + 63 < 2 ^ 32) (fills : 64 ≤ message.length % 64 + input.length) :
    ∃ next, md5.update input = some next ∧ Holds next (message ++ input) ∧
      next.buffer = (taken (message ++ input)).pending ++
        ((taken message).pending ++ input.take (64 - message.length % 64)).drop
          ((message ++ input).length % 64) := by
  have kept := taken_length message
  have used : message.length % 64 < 64 := Nat.mod_lt _ (by decide)
  have count := countBits_bits md5 message.length input.length (by omega) holds.bits
  rw [← List.length_append] at count
  rw [MD5.update, index_eq md5 message.length holds.bits, if_pos (by omega)]
  generalize left : 64 - message.length % 64 = part
  have word : (UInt32.ofNat part).toNat = part :=
    UInt32.toNat_ofNat_of_lt' (by change part < 2 ^ 32; omega)
  have front : (input.take part).length = part := by
    rw [List.length_take]
    omega
  generalize block : (taken message).pending ++ input.take part = filled
  have size : filled.length = 64 := by
    rw [← block, List.length_append, kept, front]
    omega
  have written : writeAt (message.length % 64) (input.take part) md5.buffer = filled := by
    rw [writeAt_within _ _ _ (by rw [holds.room]; omega), holds.pending, front,
      List.drop_eq_nil_of_le (by rw [holds.room]; omega), List.append_nil, block]
  obtain ⟨full, empty⟩ := absorb_fill transform (taken message) (input.take part)
    (by rw [kept, front]; omega)
  have first : absorb transform (taken message) (input.take part) =
      start (transform md5.state filled) :=
    Progress.ext (by rw [full, holds.chain, block]; rfl) empty
  have whole : taken (message ++ input) =
      absorb transform (start (transform md5.state filled)) (input.drop part) := by
    rw [taken_append, ← first, ← absorb_append, List.take_append_drop]
  obtain ⟨next, chained, loop, chain, pending, close⟩ := transformLoop_absorbs input short
    (input.length + 1) (UInt32.ofNat part) (transform md5.state filled) (by omega) (by omega)
  rw [word, ← whole] at chain pending
  have rest : (input.drop next.toNat).length = (message ++ input).length % 64 := by
    rw [← pending, taken_length]
  have buffered : writeAt 0 (input.drop next.toNat) filled =
      (taken (message ++ input)).pending ++ filled.drop ((message ++ input).length % 64) := by
    rw [writeAt_within _ _ _ (Nat.zero_le _), List.take_zero, List.nil_append, Nat.zero_add, rest,
      pending]
  refine ⟨{ md5.countBits input.length with
      state := chained, buffer := writeAt 0 (input.drop next.toNat) filled }, ?_,
    ⟨?_, count, chain.symm, ?_, rfl⟩, buffered⟩
  · change Option.map _ (MD5.transformLoop input (input.length + 1) (UInt32.ofNat part)
      (transform md5.state (writeAt (message.length % 64) (input.take part) md5.buffer))) = _
    rw [written, loop]
    rfl
  · rw [buffered, List.length_append, taken_length, List.length_drop, size]
    omega
  · rw [buffered]
    exact List.take_left' (taken_length _)

theorem update_holds (md5 : MD5) (message input : Bytes) (holds : Holds md5 message)
    (short : input.length + 63 < 2 ^ 32) :
    ∃ next, md5.update input = some next ∧ Holds next (message ++ input) := by
  by_cases fills : 64 ≤ message.length % 64 + input.length
  · obtain ⟨next, updated, held, _⟩ := update_beyond md5 message input holds short fills
    exact ⟨next, updated, held⟩
  · exact update_within md5 message input holds (by omega)

/-- A file is read in chunks, and its size does not matter. -/
theorem readLoop_holds (fuel : Nat) (md5 : MD5) (message rest : Bytes) (holds : Holds md5 message)
    (enough : rest.length < fuel) :
    ∃ next, MD5.readLoop fuel rest md5 = some next ∧ Holds next (message ++ rest) := by
  induction fuel generalizing md5 message rest with
  | zero => omega
  | succ fuel ih =>
      have size : (rest.take MD5.BUFFER_SIZE).length = min 1024 rest.length := List.length_take
      have updated : ∃ next, (if rest.take MD5.BUFFER_SIZE = [] then some md5
          else md5.update (rest.take MD5.BUFFER_SIZE)) = some next ∧
          Holds next (message ++ rest.take MD5.BUFFER_SIZE) := by
        by_cases none : rest.take MD5.BUFFER_SIZE = []
        · rw [if_pos none, none, List.append_nil]
          exact ⟨md5, rfl, holds⟩
        · rw [if_neg none]
          exact update_holds md5 message _ holds (by omega)
      obtain ⟨next, step, held⟩ := updated
      have unfolded : MD5.readLoop (fuel + 1) rest md5 =
          if (rest.take MD5.BUFFER_SIZE).length < MD5.BUFFER_SIZE then some next
          else MD5.readLoop fuel (rest.drop MD5.BUFFER_SIZE) next := by
        rw [MD5.readLoop]
        simp only [step, Option.bind_some]
      have width : MD5.BUFFER_SIZE = 1024 := rfl
      rw [unfolded]
      by_cases last : (rest.take MD5.BUFFER_SIZE).length < MD5.BUFFER_SIZE
      · rw [if_pos last]
        rw [List.take_of_length_le (by omega)] at held
        exact ⟨next, rfl, held⟩
      · obtain ⟨done, loop, ends⟩ := ih next (message ++ rest.take MD5.BUFFER_SIZE)
          (rest.drop MD5.BUFFER_SIZE) held (by rw [List.length_drop]; omega)
        rw [if_neg last]
        rw [List.append_assoc, List.take_append_drop] at ends
        exact ⟨done, loop, ends⟩

theorem updateFile_holds (md5 : MD5) (message : Bytes) (content : Option Bytes)
    (holds : Holds md5 message) :
    ∃ next, md5.updateFile content = some next ∧ Holds next (message ++ content.getD []) := by
  cases content with
  | none => exact ⟨md5, rfl, by simpa using holds⟩
  | some content => exact readLoop_holds (content.length + 1) md5 message content holds (by omega)

end Updates

/-! What a digest is, and what it leaves. -/
section Digests

def pad (message : Bytes) : Bytes := 0x80 :: List.replicate ((119 - message.length % 64) % 64) 0

theorem padding_taken (message : Bytes) :
    PADDING.take (if message.length % 64 < 56 then 56 - message.length % 64
      else 120 - message.length % 64) = pad message := by
  obtain ⟨zeros, same, few⟩ : ∃ zeros, (if message.length % 64 < 56 then 56 - message.length % 64
      else 120 - message.length % 64) = zeros + 1 ∧ zeros ≤ 63 ∧
        zeros = (119 - message.length % 64) % 64 := by
    refine ⟨(119 - message.length % 64) % 64, ?_, by omega, rfl⟩
    split_ifs <;> omega
  rw [same, PADDING, pad, List.take_succ_cons, List.take_replicate, ← few.2, Nat.min_eq_left few.1]

/-- The message that the object goes on with. -/
def leftBy (message : Bytes) : Bytes :=
  if message.length % 64 < 56 then message
  else message.take (message.length - message.length % 64) ++
    (List.replicate 56 0 ++ leBytes 8 (8 * message.length)).take (message.length % 64)

theorem leftBy_length (message : Bytes) : (leftBy message).length = message.length := by
  rw [leftBy]
  split_ifs
  · rfl
  · simp only [List.length_append, List.length_take, List.length_replicate, leBytes_length]
    omega

theorem leftBy_taken (message : Bytes) :
    (taken (leftBy message)).chain = (taken message).chain ∧
      (taken (leftBy message)).pending =
        ((taken (message ++ pad message)).pending ++ leBytes 8 (8 * message.length)).take
          (message.length % 64) := by
  have kept := taken_length message
  have used : message.length % 64 < 64 := Nat.mod_lt _ (by decide)
  rw [leftBy]
  split_ifs with room
  · have behind := absorb_short transform (taken message) (pad message) (by
      rw [kept, pad, List.length_cons, List.length_replicate]
      omega)
    refine ⟨rfl, ?_⟩
    rw [taken_append, behind.2, List.append_assoc]
    exact (List.take_left' kept).symm
  · have whole : (message.take (message.length - message.length % 64)).length % 64 = 0 := by
      rw [List.length_take]
      omega
    have before := taken_rest _ (message.drop (message.length - message.length % 64)) whole
      (by rw [List.length_drop]; omega)
    rw [List.take_append_drop] at before
    have after := taken_rest _
      ((List.replicate 56 0 ++ leBytes 8 (8 * message.length)).take (message.length % 64)) whole
      (by rw [List.length_take]; omega)
    -- the padding goes on in a block of its own, with zeros only
    have zeros : pad message =
        (0x80 :: List.replicate (63 - message.length % 64) 0) ++ List.replicate 56 0 := by
      rw [pad, List.cons_append, List.replicate_append_replicate]
      congr 2
      omega
    have next := taken_rest (message ++ 0x80 :: List.replicate (63 - message.length % 64) 0)
      (List.replicate 56 0)
      (by rw [List.length_append, List.length_cons, List.length_replicate]; omega)
      (by rw [List.length_replicate]; omega)
    rw [List.append_assoc, ← zeros] at next
    exact ⟨after.1.trans before.1.symm, by rw [after.2, next.2]⟩

theorem final_holds (md5 : MD5) (message : Bytes) (holds : Holds md5 message) :
    ∃ next, md5.final = some next ∧ next.digest = hash message ∧ Holds next (leftBy message) := by
  have padSize : (pad message).length = (119 - message.length % 64) % 64 + 1 := by
    rw [pad, List.length_cons, List.length_replicate]
  have used : message.length % 64 < 64 := Nat.mod_lt _ (by decide)
  have bitSize := leBytes_length 8 (8 * message.length)
  obtain ⟨between, first, held⟩ := update_holds md5 message (pad message) holds (by omega)
  have place : (message ++ pad message).length % 64 = 56 := by
    rw [List.length_append]
    omega
  obtain ⟨done, second, ends, buffer⟩ := update_beyond between (message ++ pad message)
    (leBytes 8 (8 * message.length)) held (by omega) (by omega)
  have whole : message ++ pad message ++ leBytes 8 (8 * message.length) = padded message := by
    rw [padded, pad, List.append_assoc]
  have full : (message ++ pad message ++ leBytes 8 (8 * message.length)).length % 64 = 0 := by
    rw [List.length_append]
    omega
  have none : (taken (message ++ pad message ++ leBytes 8 (8 * message.length))).pending = [] :=
    List.eq_nil_of_length_eq_zero (by rw [taken_length, full])
  rw [none, full, place, List.nil_append, List.drop_zero, List.take_of_length_le (by omega)]
    at buffer
  obtain ⟨chain, pending⟩ := leftBy_taken message
  refine ⟨{ done with digest := encode done.state.list, state := md5.state, count0 := md5.count0
                      count1 := md5.count1 }, ?_, ?_, ⟨ends.room, ?_, ?_, ?_, ends.unfinished⟩⟩
  · rw [MD5.final, index_eq md5 message.length holds.bits, encode_count md5 _ holds.bits,
      padding_taken, first]
    simp only [Option.bind_eq_bind, Option.bind_some, second]
  · change encode done.state.list = _
    rw [hash_taken, ends.chain, whole]
  · rw [leftBy_length]
    exact holds.bits
  · rw [chain]
    exact holds.chain
  · rw [leftBy_length, pending]
    change done.buffer.take _ = _
    rw [buffer]

theorem takeDigest_holds (md5 : MD5) (message : Bytes) (holds : Holds md5 message) :
    ∃ next, md5.takeDigest = some (hash message, next) ∧ Holds next (leftBy message) := by
  obtain ⟨next, final, digest, left⟩ := final_holds md5 message holds
  have unaware : MD5.final { md5 with finished := true } = md5.final := rfl
  refine ⟨next, ?_, left⟩
  rw [MD5.takeDigest, if_neg (by simp [holds.unfinished]), unaware, final, Option.map_some, digest]

end Digests

/-! Runs. -/
section Runs

inductive Use
  | update (input : Bytes)
  | updateFile (content : Option Bytes)
  | digest
  | toString
  | reset

/-- An index of 32 bits reaches every block of the input. -/
def Use.Short : Use → Prop
  | .update input => input.length + 63 < 2 ^ 32
  | _ => True

def MD5.use (md5 : MD5) : Use → Option (List Bytes × MD5)
  | .update input => (md5.update input).map fun next => ([], next)
  | .updateFile content => (md5.updateFile content).map fun next => ([], next)
  | .digest => md5.takeDigest.map fun taken => ([taken.1], taken.2)
  | .toString => md5.toString.map fun taken => ([taken.1], taken.2)
  | .reset => some ([], md5.reset)

/-- What is returned over a run, in order. -/
def MD5.run : List Use → MD5 → Option (List Bytes)
  | [], _ => some []
  | use :: rest, md5 => (md5.use use).bind fun step => (run rest step.2).map (step.1 ++ ·)

def Use.returned (message : Bytes) : Use → List Bytes
  | .digest => [hash message]
  | .toString => [bytesToHexString (hash message)]
  | _ => []

def Use.input (message : Bytes) : Use → Bytes
  | .update input => message ++ input
  | .updateFile content => message ++ content.getD []
  | .reset => []
  | _ => message

/-- The digests there should be. -/
def digests : List Use → Bytes → List Bytes
  | [], _ => []
  | use :: rest, message => use.returned message ++ digests rest (use.input message)

def Use.left (message : Bytes) : Use → Bytes
  | .digest => leftBy message
  | .toString => leftBy message
  | use => use.input message

/-- The digests there are. -/
def digestsLeft : List Use → Bytes → List Bytes
  | [], _ => []
  | use :: rest, message => use.returned message ++ digestsLeft rest (use.left message)

/-- Whether the message is lost behind a digest: from then on, up to a reset. -/
def Use.loses (message : Bytes) (lost : Bool) : Use → Bool
  | .digest => decide (56 ≤ message.length % 64)
  | .toString => decide (56 ≤ message.length % 64)
  | .reset => false
  | _ => lost

def Kept : List Use → Bool → Bytes → Prop
  | [], _, _ => True
  | use :: rest, lost, message =>
      (lost = true → use.returned message = []) ∧
        Kept rest (use.loses message lost) (use.input message)

theorem use_holds (md5 : MD5) (message : Bytes) (use : Use) (holds : Holds md5 message)
    (short : use.Short) :
    ∃ next, md5.use use = some (use.returned message, next) ∧ Holds next (use.left message) := by
  cases use with
  | update input =>
      obtain ⟨next, updated, held⟩ := update_holds md5 message input holds short
      exact ⟨next, by rw [MD5.use, updated]; rfl, held⟩
  | updateFile content =>
      obtain ⟨next, updated, held⟩ := updateFile_holds md5 message content holds
      exact ⟨next, by rw [MD5.use, updated]; rfl, held⟩
  | digest =>
      obtain ⟨next, digest, held⟩ := takeDigest_holds md5 message holds
      exact ⟨next, by rw [MD5.use, digest]; rfl, held⟩
  | toString =>
      obtain ⟨next, digest, held⟩ := takeDigest_holds md5 message holds
      exact ⟨next, by rw [MD5.use, MD5.toString, digest]; rfl, held⟩
  | reset => exact ⟨md5.reset, rfl, reset_holds md5 message holds⟩

theorem run_holds (uses : List Use) (md5 : MD5) (message : Bytes) (holds : Holds md5 message)
    (short : ∀ use ∈ uses, use.Short) : md5.run uses = some (digestsLeft uses message) := by
  induction uses generalizing md5 message with
  | nil => rfl
  | cons use rest ih =>
      obtain ⟨next, used, held⟩ :=
        use_holds md5 message use holds (short use List.mem_cons_self)
      have tail := ih next (use.left message) held
        fun later member => short later (List.mem_cons_of_mem use member)
      rw [MD5.run, used, Option.bind_some, tail]
      rfl

theorem leftBy_room (message : Bytes) (room : message.length % 64 < 56) :
    leftBy message = message := if_pos room

/-- A step of the two, as long as nothing is returned of a message that is lost. -/
theorem left_kept (use : Use) (lost : Bool) (message left : Bytes)
    (same : lost = false → left = message) (silent : lost = true → use.returned message = []) :
    use.returned left = use.returned message ∧
      (use.loses message lost = false → use.left left = use.input message) := by
  have taking : use.returned message ≠ [] → left = message := by
    intro returned
    cases lost with
    | false => exact same rfl
    | true => exact absurd (silent rfl) returned
  cases use with
  | update input =>
      refine ⟨rfl, fun kept => ?_⟩
      change left ++ input = message ++ input
      rw [same kept]
  | updateFile content =>
      refine ⟨rfl, fun kept => ?_⟩
      change left ++ content.getD [] = message ++ content.getD []
      rw [same kept]
  | digest =>
      rw [taking (List.cons_ne_nil _ _)]
      exact ⟨rfl, fun kept => leftBy_room message (by simpa [Use.loses] using kept)⟩
  | toString =>
      rw [taking (List.cons_ne_nil _ _)]
      exact ⟨rfl, fun kept => leftBy_room message (by simpa [Use.loses] using kept)⟩
  | reset => exact ⟨rfl, fun _ => rfl⟩

theorem digestsLeft_kept (uses : List Use) (lost : Bool) (message left : Bytes)
    (same : lost = false → left = message) (kept : Kept uses lost message) :
    digestsLeft uses left = digests uses message := by
  induction uses generalizing lost message left with
  | nil => rfl
  | cons use rest ih =>
      obtain ⟨silent, later⟩ := kept
      obtain ⟨returned, next⟩ := left_kept use lost message left same silent
      rw [digestsLeft, digests, returned,
        ih (use.loses message lost) (use.input message) (use.left left) next later]

/-- Asked twice about 56 bytes, an object gives two answers. -/
example : ((MD5.new (List.replicate 64 7) []).run
    [.update (List.replicate 56 1), .digest, .digest]).map (fun shown => decide shown.Nodup) =
      some true := by
  decide +kernel

end Runs

end EdoyumIM.Md5
