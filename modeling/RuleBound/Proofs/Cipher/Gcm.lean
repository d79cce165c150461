import Mathlib.Data.List.Basic
import RuleBound.Cipher.Gcm

/-!
What is sealed can be opened, and nothing else can. A block of the cipher is sixteen bytes whatever it
encrypts, so the key stream is as long as the message, and adding it twice gives the message back.
-/

namespace RuleBound

theorem length_bytesOfNat (width n : Nat) : (bytesOfNat width n).length = width := by
  induction width generalizing n with
  | zero => rfl
  | succ width ih => rw [bytesOfNat, List.length_append, ih, List.length_singleton]

namespace Aes

/-! ## Lengths -/

theorem length_xorBytes (a b : Bytes) : (xorBytes a b).length = min a.length b.length :=
  List.length_zipWith

/-- Adding bytes twice changes nothing if there are enough of them. -/
theorem xorBytes_xorBytes {a b : Bytes} (enough : a.length ≤ b.length) :
    xorBytes (xorBytes a b) b = a := by
  induction a generalizing b with
  | nil => rfl
  | cons x a ih =>
    cases b with
    | nil => simp at enough
    | cons y b =>
      have undone : x ^^^ y ^^^ y = x := by rw [UInt8.xor_assoc, UInt8.xor_self, UInt8.xor_zero]
      rw [List.length_cons, List.length_cons] at enough
      change (x ^^^ y ^^^ y) :: xorBytes (xorBytes a b) b = x :: a
      rw [undone, ih (by omega)]

/-- Whether bytes are a block. -/
def IsBlock (b : Bytes) : Prop := b.length = 16

/-- Whether bytes are a word of the key schedule. -/
def IsWord (w : Bytes) : Prop := w.length = 4

theorem IsBlock.xorBytes {a b : Bytes} (left : IsBlock a) (right : IsBlock b) :
    IsBlock (xorBytes a b) := by
  rw [IsBlock, length_xorBytes, left, right, Nat.min_self]

theorem IsBlock.shiftRows {block : Bytes} (full : IsBlock block) : IsBlock (shiftRows block) := by
  unfold Aes.shiftRows
  split
  · rfl
  · exact full

theorem length_mixColumns {block : Bytes} {n : Nat} (length : block.length = 4 * n) :
    (mixColumns block).length = 4 * n := by
  induction n generalizing block with
  | zero =>
    rw [List.length_eq_zero_iff.mp length]
    rfl
  | succ n ih =>
    match block, length with
    | a :: b :: c :: d :: rest, length =>
      have rest' : rest.length = 4 * n := by
        simp only [List.length_cons] at length
        omega
      rw [mixColumns, List.length_append, ih rest']
      change 4 + 4 * n = _
      omega

theorem IsBlock.mixColumns {block : Bytes} (full : IsBlock block) : IsBlock (mixColumns block) :=
  length_mixColumns (n := 4) full

theorem IsBlock.rounds {keys : List Bytes} (blocks : ∀ k ∈ keys, IsBlock k) {block : Bytes}
    (full : IsBlock block) : IsBlock (rounds keys block) := by
  induction keys, block using rounds.induct with
  | case1 block => exact full
  | case2 last block =>
    have substituted : IsBlock (block.map substitute) := by rwa [IsBlock, List.length_map]
    exact substituted.shiftRows.xorBytes (blocks last List.mem_cons_self)
  | case3 key rest block nonempty ih =>
    have substituted : IsBlock (block.map substitute) := by rwa [IsBlock, List.length_map]
    rw [List.forall_mem_cons] at blocks
    rw [Aes.rounds]
    · exact ih blocks.2 (substituted.shiftRows.mixColumns.xorBytes blocks.1)
    · exact nonempty

/-! ## Round keys -/

theorem isWord_keyWords (key : Bytes) : ∀ w ∈ keyWords key, IsWord w := by
  induction key using keyWords.induct with
  | case1 a b c d rest ih =>
    rw [keyWords, List.forall_mem_cons]
    exact ⟨rfl, ih⟩
  | case2 => simp [keyWords]

theorem length_keyWords {key : Bytes} {n : Nat} (length : key.length = 4 * n) :
    (keyWords key).length = n := by
  induction n generalizing key with
  | zero =>
    rw [List.length_eq_zero_iff.mp length]
    rfl
  | succ n ih =>
    match key, length with
    | a :: b :: c :: d :: rest, length =>
      have rest' : rest.length = 4 * n := by
        simp only [List.length_cons] at length
        omega
      rw [keyWords, List.length_cons, ih rest']

theorem IsWord.nextWord {last back : Bytes} (word : IsWord last) (word' : IsWord back) (index : Nat)
    (constant : UInt8) : IsWord (nextWord index constant last back) := by
  have added : ∀ {mixed : Bytes}, IsWord mixed → IsWord (xorBytes mixed back) := by
    intro mixed full
    rw [IsWord, length_xorBytes, full, word', Nat.min_self]
  unfold Aes.nextWord
  refine added ?_
  split
  · match last, word with
    | [a, b, c, d], _ => rfl
  · split
    · rwa [IsWord, List.length_map]
    · exact word

theorem isWord_extend (count index : Nat) (constant : UInt8) {window : List Bytes}
    (words : ∀ w ∈ window, IsWord w) (nonempty : window ≠ []) :
    ∀ w ∈ extend count index constant window, IsWord w := by
  induction count generalizing index constant window with
  | zero => simp [extend]
  | succ count ih =>
    have last : IsWord (window.getLastD []) := by
      rw [List.getLastD_eq_getLast?, List.getLast?_eq_some_getLast nonempty]
      exact words _ (List.getLast_mem nonempty)
    have first : IsWord (window.headD []) := by
      cases window with
      | nil => exact absurd rfl nonempty
      | cons w window => exact words w List.mem_cons_self
    have next := last.nextWord first index constant
    rw [extend, List.forall_mem_cons]
    refine ⟨next, ih _ _ (fun w mem => ?_) (by simp)⟩
    rcases List.mem_append.mp mem with mem | mem
    · exact words w (List.mem_of_mem_drop mem)
    · exact List.mem_singleton.mp mem ▸ next

theorem length_extend (count index : Nat) (constant : UInt8) (window : List Bytes) :
    (extend count index constant window).length = count := by
  induction count generalizing index constant window with
  | zero => rfl
  | succ count ih => rw [extend, List.length_cons, ih]

/-- Four words in a row are a block. -/
theorem isBlock_blocksOfWords {count : Nat} {words : List Bytes} (each : ∀ w ∈ words, IsWord w)
    (length : words.length = 4 * count) : ∀ b ∈ blocksOfWords count words, IsBlock b := by
  induction count generalizing words with
  | zero => simp [blocksOfWords]
  | succ count ih =>
    match words, length with
    | a :: b :: c :: d :: rest, length =>
      simp only [List.forall_mem_cons] at each
      obtain ⟨ha, hb, hc, hd, each⟩ := each
      have rest' : rest.length = 4 * count := by
        simp only [List.length_cons] at length
        omega
      rw [blocksOfWords, List.forall_mem_cons]
      refine ⟨?_, ih each rest'⟩
      change (a ++ (b ++ (c ++ (d ++ [])))).length = 16
      simp only [List.length_append, List.length_nil, show a.length = 4 from ha,
        show b.length = 4 from hb, show c.length = 4 from hc, show d.length = 4 from hd]

/-- The round keys of a key of 32 bytes are blocks. -/
theorem isBlock_roundKeys {key : Bytes} (size : key.length = 32) : ∀ k ∈ roundKeys key, IsBlock k := by
  have count : (keyWords key).length = 8 := length_keyWords (n := 8) size
  have nonempty : keyWords key ≠ [] := by
    intro none
    rw [none] at count
    cases count
  refine isBlock_blocksOfWords (fun w mem => ?_) ?_
  · rcases List.mem_append.mp mem with mem | mem
    · exact isWord_keyWords key w mem
    · exact isWord_extend 52 8 1 (isWord_keyWords key) nonempty w mem
  · rw [List.length_append, count, length_extend]

theorem IsBlock.encryptWith {keys : List Bytes} (blocks : ∀ k ∈ keys, IsBlock k) {block : Bytes}
    (full : IsBlock block) : IsBlock (encryptWith keys block) := by
  cases keys with
  | nil => exact full
  | cons first rest =>
    rw [List.forall_mem_cons] at blocks
    exact (full.xorBytes blocks.1).rounds blocks.2

end Aes

namespace Gcm

open Aes (IsBlock)

variable {keys : List Bytes} (blocks : ∀ k ∈ keys, IsBlock k) {nonce : Bytes}
  (size : nonce.length = 12)

include size in
theorem isBlock_counterBlock (counter : Nat) : IsBlock (counterBlock nonce counter) := by
  rw [IsBlock, counterBlock, List.length_append, length_bytesOfNat, size]

include blocks size

theorem length_keyStream (count counter : Nat) :
    (keyStream keys nonce count counter).length = 16 * count := by
  induction count generalizing counter with
  | zero => rfl
  | succ count ih =>
    have block : (Aes.encryptWith keys (counterBlock nonce counter)).length = 16 :=
      (isBlock_counterBlock size counter).encryptWith blocks
    rw [keyStream, List.length_append, block, ih]
    omega

theorem length_crypt (message : Bytes) : (crypt keys nonce message).length = message.length := by
  rw [crypt, Aes.length_xorBytes, length_keyStream blocks size]
  omega

/-- Adding the key stream again gives the message back. -/
theorem crypt_crypt (message : Bytes) : crypt keys nonce (crypt keys nonce message) = message := by
  have same := length_crypt blocks size message
  have enough : message.length ≤ (keyStream keys nonce ((message.length + 15) / 16) 2).length := by
    rw [length_keyStream blocks size]
    omega
  rw [crypt, same]
  exact Aes.xorBytes_xorBytes enough

theorem length_tag (ciphertext : Bytes) : (tag keys nonce ciphertext).length = 16 := by
  have mask : IsBlock (Aes.encryptWith keys (counterBlock nonce 1)) :=
    (isBlock_counterBlock size 1).encryptWith blocks
  rw [tag, Aes.length_xorBytes, length_bytesOfNat, mask, Nat.min_self]

omit blocks in
/-- What was encrypted under a key and a nonce is decrypted under them. -/
theorem decrypt?_encrypt {key : Bytes} (long : key.length = 32) (message : Bytes) :
    decrypt? key nonce (encrypt key nonce message) = some message := by
  have blocks := Aes.isBlock_roundKeys long
  have tagged := length_tag blocks size (crypt (Aes.roundKeys key) nonce message)
  unfold decrypt? encrypt
  extract_lets keys ciphertext front
  have length : (ciphertext ++ tag keys nonce ciphertext).length = ciphertext.length + 16 := by
    rw [List.length_append, tagged]
  have front_eq : front = ciphertext := by
    change List.take (List.length _ - 16) _ = ciphertext
    rw [length, Nat.add_sub_cancel, List.take_left]
  rw [if_neg (by omega), front_eq, length, Nat.add_sub_cancel, List.drop_left, if_pos rfl,
    crypt_crypt blocks size]

omit blocks in
/-- Encryption adds the tag and nothing else. -/
theorem length_encrypt {key : Bytes} (long : key.length = 32) (message : Bytes) :
    (encrypt key nonce message).length = message.length + 16 := by
  have blocks := Aes.isBlock_roundKeys long
  rw [encrypt, List.length_append, length_tag blocks size, length_crypt blocks size]

omit blocks in
/-- What is decrypted is the ciphertext of its message: the tag stands for the whole of it. -/
theorem encrypt_of_decrypt? {key : Bytes} (long : key.length = 32) {sealed message : Bytes}
    (opened : decrypt? key nonce sealed = some message) : encrypt key nonce message = sealed := by
  have blocks := Aes.isBlock_roundKeys long
  unfold decrypt? at opened
  extract_lets keys ciphertext at opened
  split at opened
  · cases opened
  · split at opened
    · rename_i tagged
      cases opened
      have again : crypt keys nonce (crypt keys nonce ciphertext) = ciphertext :=
        crypt_crypt blocks size ciphertext
      change crypt keys nonce (crypt keys nonce ciphertext) ++
        tag keys nonce (crypt keys nonce (crypt keys nonce ciphertext)) = sealed
      rw [again, tagged]
      exact List.take_append_drop _ sealed
    · cases opened

omit blocks in
/-- Decryption is the inverse of encryption. -/
theorem decrypt?_eq_some_iff {key : Bytes} (long : key.length = 32) {sealed message : Bytes} :
    decrypt? key nonce sealed = some message ↔ encrypt key nonce message = sealed := by
  constructor
  · exact encrypt_of_decrypt? size long
  · rintro rfl
    exact decrypt?_encrypt size long message

end Gcm

end RuleBound
