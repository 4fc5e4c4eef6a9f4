import EdwardsSignature.Plain
import EdwardsSignature.Proofs.Key.Public
import EdwardsSignature.Proofs.Key.Secret
import EdwardsSignature.Proofs.Scheme.Separation

/-!
# Histories of calls

A program that uses the library holds public keys, private keys and schemes, all of which it has from
earlier calls. What it holds is a `Store`, in which values are referred to by their places. A call
(`Call`) adds what it returns, and nothing if it fails; only wiping changes a value, in its place
(`Store.step`). Keys of other kinds can be shown to a scheme as well, with a curve name and halves as the
program likes, as long as it holds the halves (`Shown`).

Every call keeps the store *sound* (`Store.Sound.step`): all keys and schemes are reachable, and the
private key in a scheme is a copy of one that is held. And every call *keeps* what there was
(`Store.keeps_step`): private keys are at most wiped, with their public keys left, and all else stays as
it is. Both then hold of every history (`Store.run_invariant`), and with them what they entail: in a
public key, the encoding stands for the point; a private key is derived from its seed as a whole, or
wiped as a whole with the public key left; and the length of the context of a scheme fits into the byte
that is hashed for it.
-/

namespace EdwardsSignature

/-! ## What calls return -/

/-- What succeeds with a value has that value as its only outcome. -/
theorem eq_ok_of_toOption_eq_some {ε α : Type} {e : Except ε α} {a : α} (h : e.toOption = some a) :
    e = .ok a := by
  cases e with
  | error => cases h
  | ok a' => rw [Option.some_inj.1 h]

/-- Another error is still no value. -/
theorem toOption_mapError {ε ε' α : Type} (f : ε → ε') (e : Except ε α) :
    (e.mapError f).toOption = e.toOption := by
  cases e <;> rfl

/-- Of a key pair that is derived, the private key determines the public key. -/
theorem Plain.reachable_of_derive {bytes : Bytes} {A : PublicKey} {key : PrivateKey}
    (h : (derive bytes).toOption = some (A, key)) : key.Reachable ∧ A = key.publicKey := by
  have hok := eq_ok_of_toOption_eq_some h
  rw [derive] at hok
  split at hok
  · cases hok
  · next seed _ =>
    obtain ⟨rfl, rfl⟩ := Prod.mk.inj (Except.ok.inj hok)
    exact ⟨.ofSeed seed, rfl⟩

/-! ## Stores and calls -/

/-- What a program holds. -/
structure Store where
  /-- The public keys. -/
  publicKeys : List PublicKey
  /-- The private keys. -/
  privateKeys : List PrivateKey
  /-- The schemes. -/
  schemes : List Scheme

/-- A key that is shown to a scheme, with its parts given by their places. -/
inductive Shown where
  /-- A public key. -/
  | publicKey (i : ℕ)
  /-- A private key. -/
  | privateKey (i : ℕ)
  /-- A key of another kind, which claims to be for some curve, and shows any two halves. -/
  | foreign (curveName : String) (publicHalf privateHalf : Option ℕ)

/-- A call, with the values that it is applied to given by their places. Those of the plain flavour have
    names that say so. -/
inductive Call where
  /-- The private key of a seed. -/
  | ofSeed (seed : Octets 32)
  /-- A private key from bytes. -/
  | decodePrivateKey (bytes : Bytes)
  /-- A private key of the next bytes of a stream. -/
  | generate (stream : ByteStream)
  /-- A public key from bytes. -/
  | decodePublicKey (bytes : Bytes)
  /-- A private key from bytes. -/
  | plainDecodePrivateKey (bytes : Bytes)
  /-- A public key from bytes. -/
  | plainDecodePublicKey (bytes : Bytes)
  /-- A key pair of the next bytes of a stream. -/
  | plainKeyPair (stream : ByteStream)
  /-- A key pair of the first bytes of a seed. -/
  | plainDerive (seed : Bytes)
  /-- The public key that goes with a private key. -/
  | plainPublicKeyOf (i : ℕ)
  /-- The public key of a scheme. -/
  | publicKeyOfScheme (i : ℕ)
  /-- A copy of a public key. -/
  | copyPublicKey (i : ℕ)
  /-- A copy of a private key. -/
  | copyPrivateKey (i : ℕ)
  /-- A copy of a scheme. -/
  | copyScheme (i : ℕ)
  /-- Overwrites the secrets of a private key, in its place. -/
  | wipe (i : ℕ)
  /-- The scheme of a key, a mode and a context. -/
  | ofKey (key : Shown) (mode : Mode) (context : Bytes)
  /-- The scheme of a key, the name of a mode, and a context. -/
  | ofKeyNamed (key : Shown) (modeName : String) (context : Bytes)

namespace Store

/-- Nothing. -/
def empty : Store := ⟨[], [], []⟩

/-- Adds a public key, if there is one. -/
def addPublicKey (s : Store) (A? : Option PublicKey) : Store :=
  { s with publicKeys := s.publicKeys ++ A?.toList }

/-- Adds a private key, if there is one. -/
def addPrivateKey (s : Store) (key? : Option PrivateKey) : Store :=
  { s with privateKeys := s.privateKeys ++ key?.toList }

/-- Adds a scheme, if there is one. -/
def addScheme (s : Store) (σ? : Option Scheme) : Store :=
  { s with schemes := s.schemes ++ σ?.toList }

/-- Adds both keys of a pair, if there is one. -/
def addKeyPair (s : Store) (pair? : Option (PublicKey × PrivateKey)) : Store :=
  (s.addPublicKey (pair?.map Prod.fst)).addPrivateKey (pair?.map Prod.snd)

/-- The key that is shown, if the program holds it. -/
def shown (s : Store) : Shown → Option Key
  | .publicKey i => s.publicKeys[i]?.map PublicKey.toKey
  | .privateKey i => s.privateKeys[i]?.map PrivateKey.toKey
  | .foreign curveName publicHalf privateHalf =>
    some ⟨curveName, publicHalf.bind (s.publicKeys[·]?), privateHalf.bind (s.privateKeys[·]?)⟩

/-- What the program holds after a call. -/
def step (s : Store) : Call → Store
  | .ofSeed seed => s.addPrivateKey (some (.ofSeed seed))
  | .decodePrivateKey bytes => s.addPrivateKey (PrivateKey.decode bytes).toOption
  | .generate stream => s.addPrivateKey (some (PrivateKey.generate stream).1)
  | .decodePublicKey bytes => s.addPublicKey (PublicKey.decode bytes).toOption
  | .plainDecodePrivateKey bytes => s.addPrivateKey (Plain.decodePrivateKey bytes).toOption
  | .plainDecodePublicKey bytes => s.addPublicKey (Plain.decodePublicKey bytes).toOption
  | .plainKeyPair stream => s.addKeyPair (some (Plain.keyPair stream).1)
  | .plainDerive seed => s.addKeyPair (Plain.derive seed).toOption
  | .plainPublicKeyOf i => s.addPublicKey (s.privateKeys[i]?.map Plain.publicKeyOf)
  | .publicKeyOfScheme i => s.addPublicKey (s.schemes[i]?.map Scheme.publicKey)
  | .copyPublicKey i => s.addPublicKey s.publicKeys[i]?
  | .copyPrivateKey i => s.addPrivateKey s.privateKeys[i]?
  | .copyScheme i => s.addScheme s.schemes[i]?
  | .wipe i => { s with privateKeys := s.privateKeys.modify i PrivateKey.wipe }
  | .ofKey key mode context =>
    s.addScheme ((s.shown key).bind fun k => (Scheme.ofKey k mode context).toOption)
  | .ofKeyNamed key modeName context =>
    s.addScheme ((s.shown key).bind fun k => (Scheme.ofKeyNamed k modeName context).toOption)

/-- What the program holds after a history of calls. -/
def run (calls : List Call) : Store := calls.foldl step empty

theorem run_append (calls later : List Call) : run (calls ++ later) = later.foldl step (run calls) :=
  List.foldl_append

variable {s t u : Store}

/-! ## What calls keep -/

/-- All that `s` holds is held by `t` in the same place, where private keys may have been wiped, but
    have the public keys that they had. -/
structure Keeps (s t : Store) : Prop where
  publicKeys : ∀ (i : ℕ) A, s.publicKeys[i]? = some A → t.publicKeys[i]? = some A
  privateKeys : ∀ (i : ℕ) key, s.privateKeys[i]? = some key →
    ∃ key', t.privateKeys[i]? = some key' ∧ key'.IsOrWiped key ∧ key'.publicKey = key.publicKey
  schemes : ∀ (i : ℕ) σ, s.schemes[i]? = some σ → t.schemes[i]? = some σ

theorem Keeps.refl (s : Store) : s.Keeps s :=
  ⟨fun _ _ h => h, fun _ key h => ⟨key, h, .inl rfl, rfl⟩, fun _ _ h => h⟩

theorem Keeps.trans (h : s.Keeps t) (h' : t.Keeps u) : s.Keeps u where
  publicKeys i A hA := h'.publicKeys i A (h.publicKeys i A hA)
  privateKeys i key hkey := by
    obtain ⟨key', hkey', hsame, hpublic⟩ := h.privateKeys i key hkey
    obtain ⟨key'', hkey'', hsame', hpublic'⟩ := h'.privateKeys i key' hkey'
    exact ⟨key'', hkey'', hsame'.trans hsame, hpublic'.trans hpublic⟩
  schemes i σ hσ := h'.schemes i σ (h.schemes i σ hσ)

/-- Adding at the end leaves all places as they are. -/
theorem getElem?_append_of_eq_some {α : Type} {as : List α} {i : ℕ} {a : α} (h : as[i]? = some a)
    (bs : List α) : (as ++ bs)[i]? = some a := by
  obtain ⟨hi, rfl⟩ := List.getElem?_eq_some_iff.1 h
  rw [List.getElem?_append_left hi, h]

theorem keeps_addPublicKey (s : Store) (A? : Option PublicKey) : s.Keeps (s.addPublicKey A?) :=
  { Keeps.refl s with publicKeys := fun _ _ h => getElem?_append_of_eq_some h _ }

theorem keeps_addPrivateKey (s : Store) (key? : Option PrivateKey) : s.Keeps (s.addPrivateKey key?) :=
  { Keeps.refl s with
    privateKeys := fun _ key h => ⟨key, getElem?_append_of_eq_some h _, .inl rfl, rfl⟩ }

theorem keeps_addScheme (s : Store) (σ? : Option Scheme) : s.Keeps (s.addScheme σ?) :=
  { Keeps.refl s with schemes := fun _ _ h => getElem?_append_of_eq_some h _ }

theorem keeps_addKeyPair (s : Store) (pair? : Option (PublicKey × PrivateKey)) :
    s.Keeps (s.addKeyPair pair?) :=
  (keeps_addPublicKey s _).trans (keeps_addPrivateKey _ _)

theorem keeps_wipe (s : Store) (i : ℕ) : s.Keeps (s.step (.wipe i)) := by
  refine { Keeps.refl s with privateKeys := fun j key h => ?_ }
  by_cases hij : i = j
  · subst hij
    exact ⟨key.wipe, by simp [step, h], .inr rfl, rfl⟩
  · exact ⟨key, by simp [step, h, hij], .inl rfl, rfl⟩

/-- A call keeps what there was. -/
theorem keeps_step (s : Store) (call : Call) : s.Keeps (s.step call) := by
  cases call with
  | ofSeed | decodePrivateKey | generate | plainDecodePrivateKey | copyPrivateKey =>
    exact keeps_addPrivateKey s _
  | decodePublicKey | plainDecodePublicKey | plainPublicKeyOf | publicKeyOfScheme | copyPublicKey =>
    exact keeps_addPublicKey s _
  | plainKeyPair | plainDerive => exact keeps_addKeyPair s _
  | copyScheme | ofKey | ofKeyNamed => exact keeps_addScheme s _
  | wipe i => exact keeps_wipe s i

theorem keeps_foldl_step (s : Store) (calls : List Call) : s.Keeps (calls.foldl step s) := by
  induction calls generalizing s with
  | nil => exact .refl s
  | cons call calls ih => exact (keeps_step s call).trans (ih (s.step call))

/-! ## Sound stores -/

/-- All that is held is reachable, and the private keys in schemes are copies of private keys that are
    held, or were before these were wiped. -/
structure Sound (s : Store) : Prop where
  publicKeys : ∀ A ∈ s.publicKeys, A.Reachable
  privateKeys : ∀ key ∈ s.privateKeys, key.Reachable
  schemes : ∀ σ ∈ s.schemes, σ.Reachable
  copies : ∀ σ ∈ s.schemes, ∀ key, σ.privateKey = some key →
    ∃ key' ∈ s.privateKeys, key'.IsOrWiped key

theorem sound_empty : empty.Sound where
  publicKeys _ h := absurd h List.not_mem_nil
  privateKeys _ h := absurd h List.not_mem_nil
  schemes _ h := absurd h List.not_mem_nil
  copies _ h := absurd h List.not_mem_nil

/-- What holds of all elements of a list, and of one that may be added, holds of all in the end. -/
theorem forall_mem_append_toList {α : Type} {p : α → Prop} {as : List α} {a? : Option α}
    (has : ∀ a ∈ as, p a) (ha : ∀ a, a? = some a → p a) : ∀ a ∈ as ++ a?.toList, p a := by
  intro a hmem
  rcases List.mem_append.1 hmem with hmem | hmem
  · exact has a hmem
  · exact ha a (Option.mem_toList.1 hmem)

namespace Sound

variable (h : s.Sound)

include h

theorem addPublicKey {A? : Option PublicKey} (hA : ∀ A, A? = some A → A.Reachable) :
    (s.addPublicKey A?).Sound :=
  { h with publicKeys := forall_mem_append_toList h.publicKeys hA }

theorem addPrivateKey {key? : Option PrivateKey} (hkey : ∀ key, key? = some key → key.Reachable) :
    (s.addPrivateKey key?).Sound :=
  { h with
    privateKeys := forall_mem_append_toList h.privateKeys hkey
    copies := fun σ hσ key hkey => by
      obtain ⟨key', hmem, hsame⟩ := h.copies σ hσ key hkey
      exact ⟨key', List.mem_append_left _ hmem, hsame⟩ }

theorem addKeyPair {pair? : Option (PublicKey × PrivateKey)}
    (hpair : ∀ A key, pair? = some (A, key) → key.Reachable ∧ A = key.publicKey) :
    (s.addKeyPair pair?).Sound := by
  refine (h.addPublicKey fun A hA => ?_).addPrivateKey fun key hkey => ?_
  · obtain ⟨⟨A, key⟩, hmade, rfl⟩ := Option.map_eq_some_iff.1 hA
    obtain ⟨hkey, rfl⟩ := hpair A key hmade
    exact .ofPrivateKey hkey
  · obtain ⟨⟨A, key⟩, hmade, rfl⟩ := Option.map_eq_some_iff.1 hkey
    exact (hpair A key hmade).1

theorem wipe (i : ℕ) : (s.step (.wipe i)).Sound where
  publicKeys := h.publicKeys
  privateKeys key hmem := by
    obtain ⟨j, hj⟩ := List.mem_iff_getElem?.1 hmem
    simp only [step, List.getElem?_modify] at hj
    obtain ⟨key, hkey, rfl⟩ := Option.map_eq_some_iff.1 hj
    have hreachable := h.privateKeys key (List.mem_of_getElem? hkey)
    split_ifs
    · exact .wipe hreachable
    · exact hreachable
  schemes := h.schemes
  copies σ hσ key hkey := by
    obtain ⟨key', hmem, hsame⟩ := h.copies σ hσ key hkey
    obtain ⟨j, hj⟩ := List.mem_iff_getElem?.1 hmem
    obtain ⟨key'', hj', hsame', -⟩ := (keeps_wipe s i).privateKeys j key' hj
    exact ⟨key'', List.mem_of_getElem? hj', hsame'.trans hsame⟩

/-- A key that is shown has halves that are held. -/
theorem shown {shown : Shown} {key : Key} (hshown : s.shown shown = some key) :
    key.Reachable ∧ ∀ k, key.privateHalf = some k → k ∈ s.privateKeys := by
  cases shown with
  | publicKey i =>
    obtain ⟨A, hA, rfl⟩ := Option.map_eq_some_iff.1 hshown
    exact ⟨(h.publicKeys A (List.mem_of_getElem? hA)).toKey,
      fun _ hk => absurd hk (Option.some_ne_none _).symm⟩
  | privateKey i =>
    obtain ⟨key, hkey, rfl⟩ := Option.map_eq_some_iff.1 hshown
    have hmem := List.mem_of_getElem? hkey
    exact ⟨(h.privateKeys key hmem).toKey, fun _ hk => Option.some_inj.1 hk ▸ hmem⟩
  | foreign curveName publicHalf privateHalf =>
    obtain rfl := Option.some_inj.1 hshown
    have hprivate : ∀ k, privateHalf.bind (s.privateKeys[·]?) = some k → k ∈ s.privateKeys := by
      intro k hk
      obtain ⟨i, -, hi⟩ := Option.bind_eq_some_iff.1 hk
      exact List.mem_of_getElem? hi
    refine ⟨⟨fun A hA => ?_, fun k hk => h.privateKeys k (hprivate k hk)⟩, hprivate⟩
    obtain ⟨i, -, hi⟩ := Option.bind_eq_some_iff.1 hA
    exact h.publicKeys A (List.mem_of_getElem? hi)

/-- A scheme that is made of a key that is shown. -/
theorem addScheme_ofKey (shown : Shown) {σ? : Option Scheme}
    (hmade : ∀ σ, σ? = some σ → ∃ key mode context,
      s.shown shown = some key ∧ Scheme.ofKey key mode context = .ok σ) :
    (s.addScheme σ?).Sound :=
  { h with
    schemes := forall_mem_append_toList h.schemes fun σ hσ => by
      obtain ⟨key, mode, context, hshown, hok⟩ := hmade σ hσ
      exact .ofKey (h.shown hshown).1 hok
    copies := forall_mem_append_toList h.copies fun σ hσ k hk => by
      obtain ⟨key, mode, context, hshown, hok⟩ := hmade σ hσ
      obtain ⟨-, A, -, rfl⟩ := Scheme.eq_of_ofKey_eq_ok hok
      exact ⟨k, (h.shown hshown).2 k hk, .inl rfl⟩ }

theorem copyScheme (i : ℕ) : (s.step (.copyScheme i)).Sound :=
  { h with
    schemes := forall_mem_append_toList h.schemes fun σ hσ =>
      h.schemes σ (List.mem_of_getElem? hσ)
    copies := forall_mem_append_toList h.copies fun σ hσ =>
      h.copies σ (List.mem_of_getElem? hσ) }

/-- A call keeps a store sound. -/
theorem step (call : Call) : (s.step call).Sound := by
  cases call with
  | ofSeed seed =>
    exact h.addPrivateKey fun _ hkey => Option.some_inj.1 hkey ▸ .ofSeed seed
  | decodePrivateKey bytes =>
    exact h.addPrivateKey fun _ hkey =>
      PrivateKey.reachable_of_decode_eq_ok (eq_ok_of_toOption_eq_some hkey)
  | generate stream =>
    exact h.addPrivateKey fun _ hkey => Option.some_inj.1 hkey ▸ .ofSeed _
  | decodePublicKey bytes =>
    exact h.addPublicKey fun _ hA => .decode (eq_ok_of_toOption_eq_some hA)
  | plainDecodePrivateKey bytes =>
    refine h.addPrivateKey fun _ hkey => ?_
    rw [Plain.decodePrivateKey, toOption_mapError] at hkey
    exact PrivateKey.reachable_of_decode_eq_ok (eq_ok_of_toOption_eq_some hkey)
  | plainDecodePublicKey bytes =>
    refine h.addPublicKey fun _ hA => ?_
    rw [Plain.decodePublicKey, toOption_mapError] at hA
    exact .decode (eq_ok_of_toOption_eq_some hA)
  | plainKeyPair stream =>
    refine h.addKeyPair fun A key hpair => ?_
    obtain ⟨rfl, rfl⟩ := Prod.mk.inj (Option.some_inj.1 hpair)
    exact ⟨.ofSeed _, rfl⟩
  | plainDerive seed =>
    exact h.addKeyPair fun _ _ hpair => Plain.reachable_of_derive hpair
  | plainPublicKeyOf i =>
    refine h.addPublicKey fun A hA => ?_
    obtain ⟨key, hkey, rfl⟩ := Option.map_eq_some_iff.1 hA
    exact .ofPrivateKey (h.privateKeys key (List.mem_of_getElem? hkey))
  | publicKeyOfScheme i =>
    refine h.addPublicKey fun A hA => ?_
    obtain ⟨σ, hσ, rfl⟩ := Option.map_eq_some_iff.1 hA
    exact (h.schemes σ (List.mem_of_getElem? hσ)).reachable_publicKey
  | copyPublicKey i =>
    exact h.addPublicKey fun A hA => h.publicKeys A (List.mem_of_getElem? hA)
  | copyPrivateKey i =>
    exact h.addPrivateKey fun key hkey => h.privateKeys key (List.mem_of_getElem? hkey)
  | copyScheme i => exact h.copyScheme i
  | wipe i => exact h.wipe i
  | ofKey shown mode context =>
    refine h.addScheme_ofKey shown fun σ hσ => ?_
    obtain ⟨k, hk, hok⟩ := Option.bind_eq_some_iff.1 hσ
    exact ⟨k, mode, context, hk, eq_ok_of_toOption_eq_some hok⟩
  | ofKeyNamed shown modeName context =>
    refine h.addScheme_ofKey shown fun σ hσ => ?_
    obtain ⟨k, hk, hnamed⟩ := Option.bind_eq_some_iff.1 hσ
    obtain ⟨mode, hok⟩ := Scheme.ofKey_of_ofKeyNamed_eq_ok (eq_ok_of_toOption_eq_some hnamed)
    exact ⟨k, mode, context, hk, hok⟩

end Sound

/-- Every history leads to a sound store. -/
theorem sound_run (calls : List Call) : (run calls).Sound := by
  have hfoldl (s : Store) (h : s.Sound) : (calls.foldl step s).Sound := by
    induction calls generalizing s with
    | nil => exact h
    | cons call calls ih => exact ih (s.step call) (h.step call)
  exact hfoldl empty sound_empty

/-! ## What holds in every store -/

/-- A private key is held, by itself or in a scheme. -/
def HasPrivateKey (s : Store) (key : PrivateKey) : Prop :=
  key ∈ s.privateKeys ∨ ∃ σ ∈ s.schemes, σ.privateKey = some key

/-- A public key is held, by itself, in a private key or in a scheme. -/
def HasPublicKey (s : Store) (A : PublicKey) : Prop :=
  A ∈ s.publicKeys ∨ (∃ key, s.HasPrivateKey key ∧ key.publicKey = A) ∨
    ∃ σ ∈ s.schemes, σ.publicKey = A

/-- What is held can be relied on. -/
structure Coherent (s : Store) : Prop where
  /-- The point in a public key is on the curve, and decoding the encoding gives it, in coordinates
      that may differ. -/
  publicKeys : ∀ A, s.HasPublicKey A →
    A.point.Valid ∧ ∃ Q, Point.decode? A.encoded = some Q ∧ Q.affine = A.point.affine
  /-- A private key is live or wiped, and not both. -/
  privateKeys : ∀ key, s.HasPrivateKey key → Xor key.Live key.Wiped
  /-- The private key in a scheme is one that is held, or was before it was wiped, which leaves its
      public key. -/
  copies : ∀ σ ∈ s.schemes, ∀ key, σ.privateKey = some key →
    ∃ key' ∈ s.privateKeys, key'.IsOrWiped key ∧ key'.publicKey = key.publicKey
  /-- There is one curve. -/
  curves : ∀ σ ∈ s.schemes, σ.curve = .ed25519
  /-- Outside of the plain flavour, the context is hashed after a byte that is its length. -/
  contexts : ∀ σ ∈ s.schemes, σ.context.length ≤ 255 ∧
    ∀ prehashed, ¬σ.IsPlain prehashed → ∃ flag size : UInt8,
      σ.domain prehashed = Scheme.tag.bytes ++ flag :: size :: σ.context ∧
        size.toNat = σ.context.length

namespace Sound

variable (h : s.Sound)

include h

theorem reachable_privateKey {key : PrivateKey} (hkey : s.HasPrivateKey key) : key.Reachable := by
  rcases hkey with hkey | ⟨σ, hσ, hkey⟩
  · exact h.privateKeys key hkey
  · exact (h.schemes σ hσ).reachable_privateKey hkey

theorem reachable_publicKey {A : PublicKey} (hA : s.HasPublicKey A) : A.Reachable := by
  rcases hA with hA | ⟨key, hkey, rfl⟩ | ⟨σ, hσ, rfl⟩
  · exact h.publicKeys A hA
  · exact .ofPrivateKey (h.reachable_privateKey hkey)
  · exact (h.schemes σ hσ).reachable_publicKey

theorem coherent : s.Coherent where
  publicKeys A hA := by
    obtain ⟨P, hP⟩ := (h.reachable_publicKey hA).represents
    exact ⟨hP.point.valid, hP.decode?_encoded⟩
  privateKeys key hkey := (h.reachable_privateKey hkey).live_xor_wiped
  copies σ hσ key hkey := by
    obtain ⟨key', hmem, hsame⟩ := h.copies σ hσ key hkey
    exact ⟨key', hmem, hsame, hsame.publicKey_eq⟩
  curves σ hσ := (h.schemes σ hσ).admitted.curve_eq
  contexts σ hσ := by
    have hadmitted := (h.schemes σ hσ).admitted
    refine ⟨hadmitted.context_length_le, fun prehashed hplain => ?_⟩
    refine ⟨_, _, hadmitted.domain_of_not_isPlain hplain, ?_⟩
    rw [UInt8.toNat_ofNat', Nat.mod_eq_of_lt (Nat.lt_succ_of_le hadmitted.context_length_le)]

end Sound

/-- After every history of calls, what is held can be relied on, and later calls leave it as it is, but
    that they may wipe private keys, and then leave their public keys. -/
theorem run_invariant (calls : List Call) :
    (run calls).Coherent ∧ ∀ later, (run calls).Keeps (run (calls ++ later)) := by
  refine ⟨(sound_run calls).coherent, fun later => ?_⟩
  rw [run_append]
  exact keeps_foldl_step _ later

/-- What was copied stays when the original is wiped. -/
example (seed : Octets 32) :
    (run [.ofSeed seed, .copyPrivateKey 0, .wipe 0]).privateKeys =
      [(PrivateKey.ofSeed seed).wipe, .ofSeed seed] := rfl

end Store

end EdwardsSignature
