import Mathlib.Data.List.Forall2
import SvmCourse.Core.Double
import SvmCourse.Core.Text

/-!
# Program Derived Addresses

Addresses are derived from a program and a list of seeds. Each seed is turned into
bytes first: a text in UTF-8, a key into its thirty-two bytes, and a number into
one byte. What the package then derives depends on the program and on these bytes
one after the other.

Seeds of the same kinds and lengths begin and end at the same places, so only what
is lost when a single seed is turned into bytes can make two lists collide. Of a
number everything but the last byte is lost, and of a text the halves of pairs that
stand alone.

## Main definitions

* `Seed`: The seeds, with the bytes they are turned into.
* `derivePDA`, `deriveAccountPDA`, `deriveEscrowPDA`: Deriving an address.
* `validatePDA`: Whether an address is the one of some seeds.
* `CollisionFree`: What is assumed of the package.
* `Alike`: Seeds of one kind and one length.
* `Agree`: Seeds of which the same is left.

## Theorems

* `flatten_eq_iff`: When seeds of one shape are the same bytes.
* `derivations_distinct`: When an address belongs to one list of seeds only.
* `eq_of_gives`: Texts without halves of pairs and numbers of one byte do not
  collide.
-/

namespace SvmCourse

namespace Pda

open Core

/-! ### Seeds -/

/-- An address: 32 bytes. -/
structure PublicKey where
  bytes : List UInt8
  size : bytes.length = 32
  deriving DecidableEq

/-- What the service takes as a seed: text, a number, an address or bytes. -/
inductive Seed where
  | string (text : Text)
  | number (x : Double)
  | publicKey (key : PublicKey)
  | buffer (bytes : List UInt8)
  | uint8Array (bytes : List UInt8)
  deriving DecidableEq

/-- The bytes of a seed. Text is read as UTF-8, and of a number only the last byte is
    kept. -/
def Seed.toBuffer : Seed → List UInt8
  | string text => text.bytes
  | number x => [x.byte]
  | publicKey key => key.bytes
  | buffer bytes => bytes
  | uint8Array bytes => bytes

/-- A derived address and the bump that makes it one. -/
structure Derived where
  address : PublicKey
  bump : Nat
  deriving DecidableEq

/-- What the package finds for the bytes of seeds and a program. -/
abbrev FindProgramAddress := List (List UInt8) → PublicKey → Except String Derived

/-! ### The service -/

variable (findProgramAddress : FindProgramAddress)

/-- The address the service derives, or the library's error with the service's own
    text before it. -/
def derivePDA (programId : PublicKey) (seeds : List Seed) : Except String Derived :=
  let seedBuffers := seeds.map Seed.toBuffer
  match findProgramAddress seedBuffers programId with
  | .ok found => .ok found
  | .error message => .error s!"Failed to derive PDA: {message}"

/-- The address of an account: the word, the owner and the kind of account. -/
def deriveAccountPDA (programId ownerAddress : PublicKey) (accountType : Text) :
    Except String Derived :=
  derivePDA findProgramAddress programId
    [.buffer (Text.ofChars "account".toList).bytes, .buffer ownerAddress.bytes,
      .buffer accountType.bytes]

/-- What escrows are identified by. -/
inductive EscrowId where
  | string (text : Text)
  | buffer (bytes : List UInt8)

/-- The bytes of an escrow id. -/
def EscrowId.toBuffer : EscrowId → List UInt8
  | string text => text.bytes
  | buffer bytes => bytes

/-- The address of an escrow: the word, its id and its authority. -/
def deriveEscrowPDA (programId : PublicKey) (escrowId : EscrowId) (authority : PublicKey) :
    Except String Derived :=
  derivePDA findProgramAddress programId
    [.buffer (Text.ofChars "escrow".toList).bytes, .buffer escrowId.toBuffer,
      .buffer authority.bytes]

/-- Whether the address is the one derived from the seeds, and false when nothing is
    derived. -/
def validatePDA (address programId : PublicKey) (seeds : List Seed) : Bool :=
  match derivePDA findProgramAddress programId seeds with
  | .ok found => found.address = address
  | .error _ => false

/-- The addresses of many lists of seeds, each beside its seeds. -/
def deriveMultiplePDAs (programId : PublicKey) (seedMatrix : List (List Seed)) :
    Except String (List (Derived × List Seed)) :=
  seedMatrix.mapM fun seeds => do
    let result ← derivePDA findProgramAddress programId seeds
    pure (result, seeds)

/-! ### Shapes -/

/-- What is assumed of the package: an address depends on the program and on the
    bytes of the seeds one after the other, and is not found for others. -/
structure CollisionFree : Prop where
  address_eq_iff : ∀ {seeds seeds' programId programId' found found'},
    findProgramAddress seeds programId = .ok found →
      findProgramAddress seeds' programId' = .ok found' →
        (found.address = found'.address ↔ programId = programId' ∧ seeds.flatten = seeds'.flatten)

/-- Seeds of one kind and, where this has none, of one length. Numbers are whole and
    not negative. -/
inductive Alike : Seed → Seed → Prop where
  | string {text text' : Text} (h : text.bytes.length = text'.bytes.length) :
      Alike (.string text) (.string text')
  | number (m n : Nat) : Alike (.number (.finite m)) (.number (.finite n))
  | publicKey (key key' : PublicKey) : Alike (.publicKey key) (.publicKey key')
  | buffer {bytes bytes' : List UInt8} (h : bytes.length = bytes'.length) :
      Alike (.buffer bytes) (.buffer bytes')
  | uint8Array {bytes bytes' : List UInt8} (h : bytes.length = bytes'.length) :
      Alike (.uint8Array bytes) (.uint8Array bytes')

/-- Numbers that agree modulo 256, texts that agree but for halves of pairs that
    stand alone, and other seeds that are equal. -/
inductive Agree : Seed → Seed → Prop where
  | string {text text' : Text} (h : text.chars = text'.chars) : Agree (.string text) (.string text')
  | number {m n : Nat} (h : m % 256 = n % 256) :
      Agree (.number (.finite m)) (.number (.finite n))
  | publicKey (key : PublicKey) : Agree (.publicKey key) (.publicKey key)
  | buffer (bytes : List UInt8) : Agree (.buffer bytes) (.buffer bytes)
  | uint8Array (bytes : List UInt8) : Agree (.uint8Array bytes) (.uint8Array bytes)

variable {findProgramAddress} {programId : PublicKey} {seed seed' : Seed}
  {seeds seeds' : List Seed} {seedBuffers : List (List UInt8)} {found found' : Derived}

theorem length_toBuffer (h : Alike seed seed') :
    seed.toBuffer.length = seed'.toBuffer.length := by
  cases h with
  | string h => exact h
  | number m n => rfl
  | publicKey key key' => exact key.size.trans key'.size.symm
  | buffer h => exact h
  | uint8Array h => exact h

theorem byte_eq_iff {m n : Nat} :
    Double.byte (.finite m) = Double.byte (.finite n) ↔ m % 256 = n % 256 := by
  rw [Double.byte_ofNat, Double.byte_ofNat, ← UInt8.toNat_inj, UInt8.toNat_ofNat',
    UInt8.toNat_ofNat']

/-- Seeds of which the same is left are turned into the same bytes. -/
theorem toBuffer_of_agree (h : Agree seed seed') : seed.toBuffer = seed'.toBuffer := by
  cases h with
  | string h => exact Text.bytes_inj.mpr h
  | number h => exact congrArg (fun b => [b]) (byte_eq_iff.mpr h)
  | publicKey key => rfl
  | buffer bytes => rfl
  | uint8Array bytes => rfl

theorem agree_of_toBuffer (h : Alike seed seed') (heq : seed.toBuffer = seed'.toBuffer) :
    Agree seed seed' := by
  cases h with
  -- Texts agree in their bytes, numbers in their last byte, and the others in all
  -- there is.
  | string h => exact .string (Text.bytes_inj.mp heq)
  | number m n => exact .number (byte_eq_iff.mp (List.cons.inj heq).1)
  | publicKey key key' =>
      rcases key with ⟨bytes, size⟩
      obtain rfl : bytes = key'.bytes := heq
      exact .publicKey key'
  | buffer h =>
      obtain rfl := heq
      exact .buffer _
  | uint8Array h =>
      obtain rfl := heq
      exact .uint8Array _

theorem map_toBuffer_of_agree (h : List.Forall₂ Agree seeds seeds') :
    seeds.map Seed.toBuffer = seeds'.map Seed.toBuffer := by
  induction h with
  | nil => rfl
  | cons hseed _ ih => rw [List.map_cons, List.map_cons, toBuffer_of_agree hseed, ih]

/-- Seeds of one shape that are the same bytes one after the other are so one by
    one. -/
theorem flatten_eq_iff (h : List.Forall₂ Alike seeds seeds') :
    (seeds.map Seed.toBuffer).flatten = (seeds'.map Seed.toBuffer).flatten ↔
      List.Forall₂ Agree seeds seeds' := by
  refine ⟨fun heq => ?_, fun hagree => by rw [map_toBuffer_of_agree hagree]⟩
  induction h with
  | nil => exact .nil
  | cons hseed _ ih =>
      rw [List.map_cons, List.map_cons, List.flatten_cons, List.flatten_cons] at heq
      -- Seeds of one shape have equally many bytes, so both end at one place.
      rcases List.append_inj heq (length_toBuffer hseed) with ⟨hfirst, hrest⟩
      exact .cons (agree_of_toBuffer hseed hfirst) (ih hrest)

/-! ### Addresses -/

/-- An address is derived. -/
def Gives (result : Except String Derived) (address : PublicKey) : Prop :=
  ∃ found, result = .ok found ∧ found.address = address

theorem derivePDA_eq_ok :
    derivePDA findProgramAddress programId seeds = .ok found ↔
      findProgramAddress (seeds.map Seed.toBuffer) programId = .ok found := by
  cases hfound : findProgramAddress (seeds.map Seed.toBuffer) programId with
  | ok found' => simp only [derivePDA, hfound]
  | error message => simp only [derivePDA, hfound, reduceCtorEq]

theorem validatePDA_iff {address : PublicKey} :
    validatePDA findProgramAddress address programId seeds = true ↔
      Gives (derivePDA findProgramAddress programId seeds) address := by
  unfold validatePDA Gives
  cases derivePDA findProgramAddress programId seeds with
  | ok found => simp
  | error message => simp

/-- If the bytes one after the other determine the bytes of each seed, then exactly
    seeds with these bytes give the address. -/
theorem gives_iff (hfind : CollisionFree findProgramAddress) {address : PublicKey}
    (hgives : Gives (derivePDA findProgramAddress programId seeds) address)
    (hsplit : (seeds.map Seed.toBuffer).flatten = (seeds'.map Seed.toBuffer).flatten →
      seeds.map Seed.toBuffer = seeds'.map Seed.toBuffer) :
    Gives (derivePDA findProgramAddress programId seeds') address ↔
      seeds.map Seed.toBuffer = seeds'.map Seed.toBuffer := by
  rcases hgives with ⟨found, hok, rfl⟩
  rw [derivePDA_eq_ok] at hok
  constructor
  · rintro ⟨found', hok', haddress⟩
    rw [derivePDA_eq_ok] at hok'
    exact hsplit ((hfind.address_eq_iff hok hok').mp haddress.symm).2
  · intro hbuffers
    rw [hbuffers] at hok
    exact ⟨found, derivePDA_eq_ok.mpr hok, rfl⟩

theorem gives_of_alike (hfind : CollisionFree findProgramAddress) {address : PublicKey}
    (halike : List.Forall₂ Alike seeds seeds')
    (hgives : Gives (derivePDA findProgramAddress programId seeds) address) :
    Gives (derivePDA findProgramAddress programId seeds') address ↔
      List.Forall₂ Agree seeds seeds' := by
  have hsplit := fun h => map_toBuffer_of_agree ((flatten_eq_iff halike).mp h)
  rw [gives_iff hfind hgives hsplit, ← flatten_eq_iff halike]
  exact ⟨fun h => by rw [h], hsplit⟩

variable {ownerAddress ownerAddress' authority authority' address : PublicKey}
  {accountType accountType' escrowId escrowId' : Text}

theorem bytes_publicKey_inj {key key' : PublicKey} : key.bytes = key'.bytes ↔ key = key' := by
  rcases key with ⟨bytes, size⟩
  rcases key' with ⟨bytes', size'⟩
  exact PublicKey.mk.injEq .. ▸ Iff.rfl

/-- Two seeds after a name that both lists have. -/
theorem buffers_eq_iff {name first second first' second' : List UInt8} :
    [Seed.buffer name, .buffer first, .buffer second].map Seed.toBuffer =
        [Seed.buffer name, .buffer first', .buffer second'].map Seed.toBuffer ↔
      first = first' ∧ second = second' := by
  simp [Seed.toBuffer]

/-- The owner takes thirty-two bytes, so the type begins after it. -/
theorem gives_account (hfind : CollisionFree findProgramAddress)
    (hgives : Gives (deriveAccountPDA findProgramAddress programId ownerAddress accountType)
      address) :
    Gives (deriveAccountPDA findProgramAddress programId ownerAddress' accountType') address ↔
      ownerAddress = ownerAddress' ∧ accountType.chars = accountType'.chars := by
  rw [deriveAccountPDA, gives_iff hfind hgives, buffers_eq_iff, bytes_publicKey_inj,
    Text.bytes_inj]
  intro hflatten
  have hrest := List.append_cancel_left hflatten
  rcases List.append_inj hrest (ownerAddress.size.trans ownerAddress'.size.symm) with
    ⟨howner, htype⟩
  exact buffers_eq_iff.mpr ⟨howner, List.append_cancel_right htype⟩

/-- The authority takes the last thirty-two bytes, so the id ends before it. -/
theorem gives_escrow (hfind : CollisionFree findProgramAddress)
    (hgives : Gives (deriveEscrowPDA findProgramAddress programId (.string escrowId) authority)
      address) :
    Gives (deriveEscrowPDA findProgramAddress programId (.string escrowId') authority') address ↔
      escrowId.chars = escrowId'.chars ∧ authority = authority' := by
  rw [deriveEscrowPDA, gives_iff hfind hgives, buffers_eq_iff, bytes_publicKey_inj]
  · exact and_congr_left' Text.bytes_inj
  · intro hflatten
    have hrest : EscrowId.toBuffer (.string escrowId) ++ authority.bytes =
        EscrowId.toBuffer (.string escrowId') ++ authority'.bytes := by
      simpa [Seed.toBuffer] using hflatten
    rcases List.append_inj' hrest (authority.size.trans authority'.size.symm) with
      ⟨hid, hauthority⟩
    exact buffers_eq_iff.mpr ⟨hid, hauthority⟩

/-- For every program, an address belongs to one list of seeds of its shape exactly
    if no other list agrees with it. The same holds of the arguments for accounts and
    escrows, and of the lists that an address is valid for. -/
theorem derivations_distinct (hfind : CollisionFree findProgramAddress) :
    (∀ programId seeds seeds' address, List.Forall₂ Alike seeds seeds' →
      Gives (derivePDA findProgramAddress programId seeds) address →
        ((Gives (derivePDA findProgramAddress programId seeds') address → seeds = seeds') ↔
          (List.Forall₂ Agree seeds seeds' → seeds = seeds'))) ∧
    (∀ programId ownerAddress ownerAddress' accountType accountType' address,
      Gives (deriveAccountPDA findProgramAddress programId ownerAddress accountType) address →
        ((Gives (deriveAccountPDA findProgramAddress programId ownerAddress' accountType') address →
          ownerAddress = ownerAddress' ∧ accountType = accountType') ↔
            (ownerAddress = ownerAddress' → accountType.chars = accountType'.chars →
              accountType = accountType'))) ∧
    (∀ programId escrowId escrowId' authority authority' address,
      Gives (deriveEscrowPDA findProgramAddress programId (.string escrowId) authority) address →
        ((Gives (deriveEscrowPDA findProgramAddress programId (.string escrowId') authority')
            address → escrowId = escrowId' ∧ authority = authority') ↔
          (authority = authority' → escrowId.chars = escrowId'.chars → escrowId = escrowId'))) ∧
    ∀ programId seeds seeds' address, List.Forall₂ Alike seeds seeds' →
      Gives (derivePDA findProgramAddress programId seeds) address →
        ((validatePDA findProgramAddress address programId seeds' = true → seeds = seeds') ↔
          (List.Forall₂ Agree seeds seeds' → seeds = seeds')) := by
  refine ⟨?_, ?_, ?_, ?_⟩
  · intro programId seeds seeds' address halike hgives
    rw [gives_of_alike hfind halike hgives]
  · intro programId ownerAddress ownerAddress' accountType accountType' address hgives
    rw [gives_account hfind hgives]
    tauto
  · intro programId escrowId escrowId' authority authority' address hgives
    rw [gives_escrow hfind hgives]
    tauto
  · intro programId seeds seeds' address halike hgives
    rw [validatePDA_iff, gives_of_alike hfind halike hgives]

/-- A seed of which nothing is lost. -/
def Seed.Kept : Seed → Prop
  | string text => text.WellFormed
  | number x => ∃ n : Nat, n < 256 ∧ x = .finite n
  | publicKey _ | buffer _ | uint8Array _ => True

theorem eq_of_agree (h : Agree seed seed') (hkept : seed.Kept) (hkept' : seed'.Kept) :
    seed = seed' := by
  cases h with
  | string h => rw [Text.WellFormed.eq_of_bytes hkept hkept' (Text.bytes_inj.mpr h)]
  | @number m n h =>
      -- Numbers below 256 are their last byte.
      rcases hkept with ⟨k, hk, hm⟩
      rcases hkept' with ⟨k', hk', hn⟩
      obtain rfl : m = k := Nat.cast_injective (Double.finite.inj hm)
      obtain rfl : n = k' := Nat.cast_injective (Double.finite.inj hn)
      rw [Nat.mod_eq_of_lt hk, Nat.mod_eq_of_lt hk'] at h
      rw [h]
  | publicKey key => rfl
  | buffer bytes => rfl
  | uint8Array bytes => rfl

/-- Seeds of which nothing is lost are the only ones of their shape with their
    address. -/
theorem eq_of_gives (hfind : CollisionFree findProgramAddress)
    (halike : List.Forall₂ Alike seeds seeds') (hkept : ∀ seed ∈ seeds, seed.Kept)
    (hkept' : ∀ seed ∈ seeds', seed.Kept)
    (hgives : Gives (derivePDA findProgramAddress programId seeds) address)
    (hgives' : Gives (derivePDA findProgramAddress programId seeds') address) : seeds = seeds' := by
  have hagree := (gives_of_alike hfind halike hgives).mp hgives'
  clear halike hgives hgives'
  induction hagree with
  | nil => rfl
  | cons hseed _ ih =>
      rw [eq_of_agree hseed (hkept _ (List.mem_cons_self ..)) (hkept' _ (List.mem_cons_self ..)),
        ih (fun seed h => hkept seed (List.mem_cons_of_mem _ h))
          (fun seed h => hkept' seed (List.mem_cons_of_mem _ h))]

/-! ### A program with two addresses -/

/-- The program in the witness. -/
def sampleProgram : PublicKey := ⟨List.replicate 31 0 ++ [1], rfl⟩

/-- What is found for the text "user" and a number. -/
def sampleAddress : PublicKey :=
  ⟨[52, 152, 131, 22, 121, 178, 230, 245, 66, 30, 234, 121, 127, 27, 221, 218, 130, 1, 165, 106,
    92, 173, 236, 126, 208, 174, 65, 24, 142, 98, 135, 104], rfl⟩

/-- What is found for the text "user" and the next number. -/
def sampleNextAddress : PublicKey :=
  ⟨[233, 170, 178, 133, 250, 66, 25, 156, 192, 214, 244, 76, 58, 172, 71, 115, 248, 48, 134,
    234, 161, 13, 120, 215, 196, 17, 33, 130, 152, 225, 155, 212], rfl⟩

/-- Two addresses of the program in the witness, and an error for all other seeds. -/
def sampleFind : FindProgramAddress := fun seeds programId =>
  if programId = sampleProgram ∧ seeds.flatten = [117, 115, 101, 114, 57] then
    .ok ⟨sampleAddress, 254⟩
  else if programId = sampleProgram ∧ seeds.flatten = [117, 115, 101, 114, 58] then
    .ok ⟨sampleNextAddress, 255⟩
  else .error "Unable to find a viable program address nonce"

theorem sampleFind_cases (h : sampleFind seedBuffers programId = .ok found) :
    programId = sampleProgram ∧
      (seedBuffers.flatten = [117, 115, 101, 114, 57] ∧ found.address = sampleAddress ∨
        seedBuffers.flatten = [117, 115, 101, 114, 58] ∧ found.address = sampleNextAddress) := by
  unfold sampleFind at h
  split at h
  · next hfirst =>
      cases h
      exact ⟨hfirst.1, Or.inl ⟨hfirst.2, rfl⟩⟩
  · split at h
    · next hnext =>
        cases h
        exact ⟨hnext.1, Or.inr ⟨hnext.2, rfl⟩⟩
    · cases h

theorem sampleFind_collisionFree : CollisionFree sampleFind where
  address_eq_iff := by
    intro seeds seeds' programId programId' found found' h h'
    have hne : sampleAddress ≠ sampleNextAddress := by decide
    rcases sampleFind_cases h with ⟨rfl, ⟨hflatten, haddress⟩ | ⟨hflatten, haddress⟩⟩ <;>
      rcases sampleFind_cases h' with ⟨rfl, ⟨hflatten', haddress'⟩ | ⟨hflatten', haddress'⟩⟩ <;>
      simp [hflatten, haddress, hflatten', haddress', hne, hne.symm]

/-- The first seed in the witness. -/
def user : Seed := .string (Text.ofChars "user".toList)

theorem sampleSeeds_alike (m n : Nat) :
    List.Forall₂ Alike [user, .number (.finite m)] [user, .number (.finite n)] :=
  .cons (.string rfl) (.cons (.number m n) .nil)

theorem sampleSeeds_distinct :
    (validatePDA sampleFind sampleAddress sampleProgram [user, .number (.finite (58 : Nat))] =
        true → [user, .number (.finite (57 : Nat))] = [user, .number (.finite (58 : Nat))]) ↔
      (List.Forall₂ Agree [user, .number (.finite (57 : Nat))]
        [user, .number (.finite (58 : Nat))] →
          [user, .number (.finite (57 : Nat))] = [user, .number (.finite (58 : Nat))]) :=
  (derivations_distinct sampleFind_collisionFree).2.2.2 sampleProgram _ _ sampleAddress
    (sampleSeeds_alike 57 58) ⟨⟨sampleAddress, 254⟩, by decide +kernel, rfl⟩

/-- A number and another one that differs by a multiple of 256. -/
theorem numbers_collide : ¬∀ findProgramAddress : FindProgramAddress,
    CollisionFree findProgramAddress → ∀ programId seeds seeds' address,
      List.Forall₂ Alike seeds seeds' →
        Gives (derivePDA findProgramAddress programId seeds) address →
          Gives (derivePDA findProgramAddress programId seeds') address → seeds = seeds' := by
  intro h
  have heq := h sampleFind sampleFind_collisionFree sampleProgram
    [user, .number (.finite (12345 : Nat))] [user, .number (.finite (57 : Nat))] sampleAddress
    (sampleSeeds_alike 12345 57) ⟨⟨sampleAddress, 254⟩, by decide +kernel, rfl⟩
    ⟨⟨sampleAddress, 254⟩, by decide +kernel, rfl⟩
  exact absurd heq (by decide +kernel)

end Pda

end SvmCourse
