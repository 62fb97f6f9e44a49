/-
# `Beanie.Api.RpcAllowlist` — which contracts the proxy lets a client read

The upstreams of `main.rs`.  `allows` compares texts without case, prefix and
leading zeros, so it is exact for every contract whose text is hexadecimal
(`allows_iff`).  The texts of `main.rs` are not: the receiver factory and the
token go through `Display`, which abbreviates an EVM address and writes a
Starknet one in decimal.
-/
import Beanie.Api.RpcProxy
import Beanie.Api.Models

namespace Beanie.Api.RpcProxy

open Beanie.Starknet (Felt)

/-! ## The upstreams of `main.rs` -/

/-- How the address types are written. -/
structure DisplayCrates where
  /-- `H160`'s `Display`. -/
  h160_display : Address → Text
  /-- `H160`'s `Debug`. -/
  h160_debug : Address → Text
  /-- `Felt`'s `Display`. -/
  felt_display : Felt → Text

/-- `Display` shows two octets of each end, `Debug` shows them all, and a field element is shown
in decimal. -/
structure DisplayCrates.Documented (x : DisplayCrates) : Prop where
  h160_display : ∀ a, x.h160_display a = '0' :: 'x' ::
    (Beanie.hexEncode ((beBytes 20 a.toNat).take 2)
      ++ '…' :: Beanie.hexEncode ((beBytes 20 a.toNat).drop 18))
  h160_debug : ∀ a, x.h160_debug a = '0' :: 'x' :: padHex 40 a.toNat
  felt_display : ∀ v, x.felt_display v = Nat.toDigits 10 v.val

structure EvmConfig where
  evm_rpc_url : Text
  factory_address : Address
  token_address : Address

structure StarknetConfig where
  rpc_url : Text
  factory_address : Felt
  token_address : Felt

/-- The configuration the upstreams are built from, and the factory of each stealth chain. -/
structure ProxyConfig where
  base : EvmConfig
  ethereum : EvmConfig
  arbitrum : EvmConfig
  monad : EvmConfig
  starknet : StarknetConfig
  solana_rpc_url : Text
  stealth_factory : Chain → Option Address

section
variable (x : DisplayCrates) (cfg : ProxyConfig)

def evmAllowed (chain : Chain) (receiver_factory token : Text) : List Text :=
  receiver_factory :: token :: ((cfg.stealth_factory chain).map x.h160_debug).toList

def evmUpstream (chain : Chain) (evm : EvmConfig) : Upstream :=
  .new evm.evm_rpc_url .evm (evmAllowed x cfg chain (x.h160_display evm.factory_address)
    (x.h160_display evm.token_address))

def upstream : Chain → Upstream
  | .base => evmUpstream x cfg .base cfg.base
  | .ethereum => evmUpstream x cfg .ethereum cfg.ethereum
  | .arbitrum => evmUpstream x cfg .arbitrum cfg.arbitrum
  | .monad => evmUpstream x cfg .monad cfg.monad
  | .starknet => .new cfg.starknet.rpc_url .starknet
      [x.felt_display cfg.starknet.factory_address, x.felt_display cfg.starknet.token_address]
  | .solana => .new cfg.solana_rpc_url .solana []

def upstreams : List (Text × Upstream) :=
  [("base".toList, upstream x cfg .base), ("ethereum".toList, upstream x cfg .ethereum),
    ("arbitrum".toList, upstream x cfg .arbitrum), ("monad".toList, upstream x cfg .monad),
    ("starknet".toList, upstream x cfg .starknet), ("solana".toList, upstream x cfg .solana)]

end

/-! ## Spellings -/

/-- The text is `0x` and hexadecimal digits, at most 66 characters, for the number. -/
def Spells (s : Text) (v : Nat) : Prop :=
  ∃ ds, s = '0' :: 'x' :: ds ∧ s.length ≤ 66 ∧ IsHex ds ∧ hexValue ds = v

theorem Spells.unique {s : Text} {v w : Nat} (hv : Spells s v) (hw : Spells s w) : v = w := by
  obtain ⟨ds, rfl, -, -, rfl⟩ := hv
  obtain ⟨es, hes, -, -, rfl⟩ := hw
  cases hes
  rfl

/-- Every number below `16 ^ 64` is spelled. -/
theorem exists_spells {v : Nat} (h : v < 16 ^ 64) : ∃ s, Spells s v := by
  refine ⟨'0' :: 'x' :: padHex 64 v, padHex 64 v, rfl, ?_, isHex_padHex 64 v, hexValue_padHex 64 v⟩
  simp only [List.length_cons, length_padHex (by decide : 0 < 64) h]
  decide

theorem isHex_iff {s : Text} : isHex s 66 = true ↔ ∃ v, Spells s v := by
  simp only [isHex, Bool.and_eq_true, decide_eq_true_eq, beq_iff_eq]
  constructor
  · rintro ⟨⟨⟨-, hmax⟩, hfront⟩, hhex⟩
    have hsplit := List.take_append_drop 2 s
    rw [hfront] at hsplit
    exact ⟨_, s.drop 2, hsplit.symm, hmax, hhex, rfl⟩
  · rintro ⟨v, ds, rfl, hmax, hhex, -⟩
    exact ⟨⟨⟨by simp, hmax⟩, rfl⟩, hhex⟩

/-! ## Texts normalised -/

theorem trimHexPrefix_of_isHex {ds : Text} (h : IsHex ds) : trimHexPrefix ds = ds := by
  unfold trimHexPrefix
  split
  · exact absurd (h 'x' (by simp)) (by decide)
  · rfl

theorem trimUpperPrefix_of_isHex {ds : Text} (h : IsHex ds) : trimUpperPrefix ds = ds := by
  unfold trimUpperPrefix
  split
  · exact absurd (h 'X' (by simp)) (by decide)
  · rfl

theorem norm_of_isHex {ds : Text} (h : IsHex ds) :
    norm ds = (ds.map Char.toLower).dropWhile (· = '0') := by
  rw [norm, trimHexPrefix_of_isHex h, trimUpperPrefix_of_isHex h]

theorem norm_prefixed (ds : Text) : norm ('0' :: 'x' :: ds) = norm ds := by
  rw [norm, norm, trimHexPrefix]

theorem norm_eq_iff {ds es : Text} (hd : IsHex ds) (he : IsHex es) :
    norm ds = norm es ↔ hexValue ds = hexValue es := by
  rw [norm_of_isHex hd, norm_of_isHex he,
    dropWhile_zero_eq_iff (isLowerHex_map_toLower hd) (isLowerHex_map_toLower he),
    hexValue_map_toLower, hexValue_map_toLower]

/-- A character that is no prefix's and no zero stays. -/
theorem mem_norm {c : Char} {s : Text} (h : c ∈ s)
    (hc : c ≠ '0' ∧ c ≠ 'x' ∧ c ≠ 'X' ∧ c.toLower = c) : c ∈ norm s := by
  obtain ⟨hzero, hx, hX, hlower⟩ := hc
  have hhex : c ∈ trimHexPrefix s := by
    fun_induction trimHexPrefix s with
    | case1 s ih =>
        simp only [List.mem_cons, hzero, hx, false_or] at h
        exact ih h
    | case2 => exact h
  have hupper : ∀ {t : Text}, c ∈ t → c ∈ trimUpperPrefix t := by
    intro t ht
    fun_induction trimUpperPrefix t with
    | case1 s ih =>
        simp only [List.mem_cons, hzero, hX, false_or] at ht
        exact ih ht
    | case2 => exact ht
  have hmap : c ∈ (trimUpperPrefix (trimHexPrefix s)).map Char.toLower :=
    List.mem_map.mpr ⟨c, hupper hhex, hlower⟩
  rw [norm]
  rw [← List.takeWhile_append_dropWhile (p := fun c => decide (c = '0')) (l := List.map _ _)]
    at hmap
  rcases List.mem_append.mp hmap with hmem | hmem
  · have hc := List.mem_takeWhile_imp hmem
    exact absurd (of_decide_eq_true hc) hzero
  · exact hmem

/-! ## What is allowed -/

section
variable {x : DisplayCrates} {cfg : ProxyConfig} {s : Text}

/-- A contract whose text is hexadecimal is matched by value. -/
theorem norm_eq_of_spells {ds : Text} {v : Nat} (hs : Spells s v) (h : IsHex ds) :
    norm ds = norm s ↔ hexValue ds = v := by
  obtain ⟨es, rfl, -, hes, rfl⟩ := hs
  rw [norm_prefixed, norm_eq_iff h hes]

/-- An abbreviated address is matched by no text. -/
theorem norm_display_ne (hx : x.Documented) {v : Nat} (hs : Spells s v) (a : Address) :
    norm (x.h160_display a) ≠ norm s := by
  intro h
  have hmem : '…' ∈ norm (x.h160_display a) := by
    refine mem_norm ?_ (by decide)
    rw [hx.h160_display]
    simp
  obtain ⟨es, rfl, -, hes, rfl⟩ := hs
  rw [h, norm_prefixed, norm_of_isHex hes] at hmem
  have hlower := isLowerHex_map_toLower hes _ ((List.dropWhile_sublist _).mem hmem)
  exact absurd hlower.1 (by decide)

/-- The numbers whose spellings the proxy allows. -/
def allowedValues (cfg : ProxyConfig) : Chain → List Nat
  | .starknet => [hexValue (Nat.toDigits 10 cfg.starknet.factory_address.val),
      hexValue (Nat.toDigits 10 cfg.starknet.token_address.val)]
  | .solana => []
  | chain => ((cfg.stealth_factory chain).map BitVec.toNat).toList

/-- The configured contracts of a chain. -/
def configured (cfg : ProxyConfig) : Chain → List Nat
  | .base => evm cfg.base .base
  | .ethereum => evm cfg.ethereum .ethereum
  | .arbitrum => evm cfg.arbitrum .arbitrum
  | .monad => evm cfg.monad .monad
  | .starknet => [cfg.starknet.factory_address.val, cfg.starknet.token_address.val]
  | .solana => []
where
  evm (c : EvmConfig) (chain : Chain) : List Nat :=
    c.factory_address.toNat :: c.token_address.toNat ::
      ((cfg.stealth_factory chain).map BitVec.toNat).toList

theorem allows_new_iff {url : Text} {family : Family} {contracts : List Text} :
    (Upstream.new url family contracts).allows s = true ↔
      ∃ v, Spells s v ∧ ∃ c ∈ contracts, norm c = norm s := by
  simp only [Upstream.allows, Upstream.new, Bool.and_eq_true, isHex_iff, List.any_map,
    List.any_eq_true, Function.comp_apply, beq_iff_eq, exists_and_right]

theorem allows_evm_iff (hx : x.Documented) (chain : Chain) (evm : EvmConfig) :
    (evmUpstream x cfg chain evm).allows s = true ↔
      ∃ v, Spells s v ∧ v ∈ ((cfg.stealth_factory chain).map BitVec.toNat).toList := by
  rw [evmUpstream, allows_new_iff]
  refine exists_congr fun v => and_congr_right fun hs => ?_
  rw [evmAllowed]
  simp only [List.mem_cons, exists_eq_or_imp, norm_display_ne hx hs, false_or]
  cases cfg.stealth_factory chain with
  | none => simp
  | some a =>
      simp only [Option.map_some, Option.toList_some, List.mem_singleton, exists_eq_left,
        hx.h160_debug]
      rw [norm_prefixed, norm_eq_of_spells hs (isHex_padHex _ _),
        hexValue_padHex]
      exact eq_comm

/-- `allows`, by value. -/
theorem allows_iff (hx : x.Documented) (chain : Chain) :
    (upstream x cfg chain).allows s = true ↔ ∃ v, Spells s v ∧ v ∈ allowedValues cfg chain := by
  cases chain with
  | starknet =>
      rw [upstream, allows_new_iff]
      refine exists_congr fun v => and_congr_right fun hs => ?_
      simp only [hx.felt_display, List.mem_cons, List.not_mem_nil, or_false, exists_eq_or_imp,
        exists_eq_left, allowedValues]
      exact or_congr ((norm_eq_of_spells hs (isHex_toDigits _)).trans eq_comm)
        ((norm_eq_of_spells hs (isHex_toDigits _)).trans eq_comm)
  | solana =>
      rw [upstream, allows_new_iff]
      simp [allowedValues]
  | base => exact allows_evm_iff hx .base cfg.base
  | ethereum => exact allows_evm_iff hx .ethereum cfg.ethereum
  | arbitrum => exact allows_evm_iff hx .arbitrum cfg.arbitrum
  | monad => exact allows_evm_iff hx .monad cfg.monad

/-- An EVM contract is let through only where it is the stealth factory. -/
def StealthOnly (cfg : ProxyConfig) (c : EvmConfig) (chain : Chain) (v : Nat) : Prop :=
  v = c.factory_address.toNat ∨ v = c.token_address.toNat →
    (cfg.stealth_factory chain).map BitVec.toNat = some v

/-- A number for which the list is right.  A Starknet contract is matched by its decimal digits,
read as hexadecimal. -/
def ListedRight (cfg : ProxyConfig) : Chain → Nat → Prop
  | .base, v => StealthOnly cfg cfg.base .base v
  | .ethereum, v => StealthOnly cfg cfg.ethereum .ethereum v
  | .arbitrum, v => StealthOnly cfg cfg.arbitrum .arbitrum v
  | .monad, v => StealthOnly cfg cfg.monad .monad v
  | .starknet, v =>
      (v = cfg.starknet.factory_address.val ∨ v = cfg.starknet.token_address.val) ↔
        (v = hexValue (Nat.toDigits 10 cfg.starknet.factory_address.val) ∨
          v = hexValue (Nat.toDigits 10 cfg.starknet.token_address.val))
  | .solana, _ => True

/-- The receiver factory and the token are the stealth factory. -/
def EvmTrivial (cfg : ProxyConfig) (c : EvmConfig) (chain : Chain) : Prop :=
  cfg.stealth_factory chain = some c.factory_address ∧
    cfg.stealth_factory chain = some c.token_address

/-- A configuration for which the list is right. -/
def ConfiguredRight (cfg : ProxyConfig) : Chain → Prop
  | .base => EvmTrivial cfg cfg.base .base
  | .ethereum => EvmTrivial cfg cfg.ethereum .ethereum
  | .arbitrum => EvmTrivial cfg cfg.arbitrum .arbitrum
  | .monad => EvmTrivial cfg cfg.monad .monad
  | .starknet => cfg.starknet.factory_address.val < 10 ∧ cfg.starknet.token_address.val < 10
  | .solana => True

theorem stealthOnly_iff (c : EvmConfig) (chain : Chain) (v : Nat) :
    (v ∈ ((cfg.stealth_factory chain).map BitVec.toNat).toList ↔ v ∈ configured.evm cfg c chain) ↔
      StealthOnly cfg c chain v := by
  simp only [configured.evm, StealthOnly, List.mem_cons, Option.mem_toList]
  tauto

theorem listedRight_iff (chain : Chain) (v : Nat) :
    (v ∈ allowedValues cfg chain ↔ v ∈ configured cfg chain) ↔ ListedRight cfg chain v := by
  cases chain with
  | base => exact stealthOnly_iff cfg.base .base v
  | ethereum => exact stealthOnly_iff cfg.ethereum .ethereum v
  | arbitrum => exact stealthOnly_iff cfg.arbitrum .arbitrum v
  | monad => exact stealthOnly_iff cfg.monad .monad v
  | starknet =>
      simp only [allowedValues, configured, ListedRight, List.mem_cons, List.not_mem_nil, or_false]
      exact iff_comm
  | solana => simp [allowedValues, configured, ListedRight]

theorem evmTrivial_iff (c : EvmConfig) (chain : Chain) :
    (∀ v < 16 ^ 64, StealthOnly cfg c chain v) ↔ EvmTrivial cfg c chain := by
  have hbound : ∀ a : Address, a.toNat < 16 ^ 64 := fun a => a.isLt.trans (by decide)
  have hmap : ∀ a : Address, (cfg.stealth_factory chain).map BitVec.toNat = some a.toNat ↔
      cfg.stealth_factory chain = some a := by
    intro a
    rw [Option.map_eq_some_iff]
    constructor
    · rintro ⟨b, hb, heq⟩
      rw [hb, BitVec.eq_of_toNat_eq heq]
    · intro h
      exact ⟨a, h, rfl⟩
  constructor
  · intro h
    exact ⟨(hmap _).mp (h _ (hbound _) (.inl rfl)), (hmap _).mp (h _ (hbound _) (.inr rfl))⟩
  · rintro ⟨hfactory, htoken⟩ v _ (rfl | rfl)
    · exact (hmap _).mpr hfactory
    · exact (hmap _).mpr htoken

theorem configuredRight_iff (chain : Chain) :
    (∀ v < 16 ^ 64, ListedRight cfg chain v) ↔ ConfiguredRight cfg chain := by
  cases chain with
  | base => exact evmTrivial_iff cfg.base .base
  | ethereum => exact evmTrivial_iff cfg.ethereum .ethereum
  | arbitrum => exact evmTrivial_iff cfg.arbitrum .arbitrum
  | monad => exact evmTrivial_iff cfg.monad .monad
  | solana => exact ⟨fun _ => trivial, fun _ _ _ => trivial⟩
  | starknet =>
      have hbound : ∀ v : Felt, v.val < 16 ^ 64 := fun v => v.isLt.trans (by decide)
      have hf := le_hexValue_toDigits cfg.starknet.factory_address.val
      have ht := le_hexValue_toDigits cfg.starknet.token_address.val
      have hf' := hexValue_toDigits_eq_iff cfg.starknet.factory_address.val
      have ht' := hexValue_toDigits_eq_iff cfg.starknet.token_address.val
      simp only [ListedRight, ConfiguredRight]
      constructor
      · intro h
        have hfactory := (h _ (hbound cfg.starknet.factory_address)).mp (.inl rfl)
        have htoken := (h _ (hbound cfg.starknet.token_address)).mp (.inr rfl)
        omega
      · rintro ⟨hsmall, hsmall'⟩ v -
        rw [hf'.mpr hsmall, ht'.mpr hsmall']

/-- **When the allowlist is exact.**  For a configuration, `allows` accepts the spellings of the
configured contracts and nothing else iff the receiver factory and the token are the stealth
factory (EVM), or all below ten (Starknet).  For one text, it decides rightly iff the text spells
neither the receiver factory nor the token unless that is the stealth factory (EVM), or the number
it spells is a contract's iff it is a contract's decimal digits (Starknet). -/
theorem allows_exact_iff (hx : x.Documented) (chain : Chain) :
    ((∀ s, (upstream x cfg chain).allows s = true ↔ ∃ v, Spells s v ∧ v ∈ configured cfg chain) ↔
      ConfiguredRight cfg chain) ∧
    ∀ s, ((upstream x cfg chain).allows s = true ↔ ∃ v, Spells s v ∧ v ∈ configured cfg chain) ↔
      ∀ v, Spells s v → ListedRight cfg chain v := by
  have hpoint : ∀ s, ((upstream x cfg chain).allows s = true ↔
      ∃ v, Spells s v ∧ v ∈ configured cfg chain) ↔
        ∀ v, Spells s v → ListedRight cfg chain v := by
    intro s
    rw [allows_iff hx]
    constructor
    · intro h v hv
      have hallowed : (∃ w, Spells s w ∧ w ∈ allowedValues cfg chain) ↔
          v ∈ allowedValues cfg chain :=
        ⟨fun ⟨w, hw, hmem⟩ => hv.unique hw ▸ hmem, fun hmem => ⟨v, hv, hmem⟩⟩
      have hconfigured : (∃ w, Spells s w ∧ w ∈ configured cfg chain) ↔
          v ∈ configured cfg chain :=
        ⟨fun ⟨w, hw, hmem⟩ => hv.unique hw ▸ hmem, fun hmem => ⟨v, hv, hmem⟩⟩
      rw [hallowed, hconfigured] at h
      exact (listedRight_iff chain v).mp h
    · intro h
      refine exists_congr fun v => and_congr_right fun hv => ?_
      exact (listedRight_iff chain v).mpr (h v hv)
  refine ⟨?_, hpoint⟩
  rw [← configuredRight_iff]
  constructor
  · intro h v hv
    obtain ⟨s, hs⟩ := exists_spells hv
    exact (hpoint s).mp (h s) v hs
  · intro h s
    refine (hpoint s).mpr ?_
    intro v hs
    refine h v ?_
    obtain ⟨ds, rfl, hlength, -, rfl⟩ := hs
    have hlen : ds.length ≤ 64 := by
      simp only [List.length_cons] at hlength
      omega
    exact (hexValue_lt ds).trans_le (Nat.pow_le_pow_right (by decide) hlen)

end

/-! ## Base -/

namespace AllowlistSample

/-- The three ways of writing, as the libraries have them. -/
def display : DisplayCrates where
  h160_display a := '0' :: 'x' ::
    (Beanie.hexEncode ((beBytes 20 a.toNat).take 2)
      ++ '…' :: Beanie.hexEncode ((beBytes 20 a.toNat).drop 18))
  h160_debug a := '0' :: 'x' :: padHex 40 a.toNat
  felt_display v := Nat.toDigits 10 v.val

theorem display_documented : display.Documented :=
  ⟨fun _ => rfl, fun _ => rfl, fun _ => rfl⟩

def evm : EvmConfig where
  evm_rpc_url := "https://rpc".toList
  factory_address := 0x51e9813cad0d94b0ebc8aedc27706bde2a94d49a
  token_address := 0x833589fcd6edb6e08f4c7c32d4f71b54bda02913

def config : ProxyConfig where
  base := evm
  ethereum := evm
  arbitrum := evm
  monad := evm
  starknet := ⟨"https://rpc".toList,
    0x074fc53d92ed14249d7d7f37a22d879ad6d5660c2f86bcf5ae74e3d22347e30c,
    0x033068f6539f8e6e6b131e6b2b814e6c34a5224bc66947c47dab9dfee93b35fb⟩
  solana_rpc_url := "https://rpc".toList
  stealth_factory chain := if chain = .base then some 0xfb else none

/-- USDC on Base. -/
def usdc : Text := "0x833589fCD6eDb6E08f4c7C32D4f71b54bdA02913".toList

end AllowlistSample

open AllowlistSample in
/-- USDC is configured on Base, and its address is refused. -/
theorem usdc_refused :
    display.Documented ∧ (upstream display config .base).allows usdc = false ∧
      Spells usdc 0x833589fcd6edb6e08f4c7c32d4f71b54bda02913 ∧
      0x833589fcd6edb6e08f4c7c32d4f71b54bda02913 ∈ configured config .base ∧
      ¬ ∀ s, (upstream display config .base).allows s = true ↔
        ∃ v, Spells s v ∧ v ∈ configured config .base := by
  have hspells : Spells usdc 0x833589fcd6edb6e08f4c7c32d4f71b54bda02913 :=
    ⟨usdc.drop 2, by decide, by decide, by decide, by decide +kernel⟩
  have hmem : 0x833589fcd6edb6e08f4c7c32d4f71b54bda02913 ∈ configured config .base := by decide
  have hrefused : (upstream display config .base).allows usdc = false := by decide +kernel
  refine ⟨display_documented, hrefused, hspells, hmem, ?_⟩
  intro h
  rw [(h usdc).mpr ⟨_, hspells, hmem⟩] at hrefused
  cases hrefused

open AllowlistSample in
/-- The stealth factory is let through, with leading zeros and in any case. -/
theorem stealth_factory_exact :
    ((upstream display config .base).allows "0x00Fb".toList = true ↔
      ∃ v, Spells "0x00Fb".toList v ∧ v ∈ configured config .base) ∧
    ¬ ConfiguredRight config .base ∧
    ¬ ∀ s, (upstream display config .base).allows s = true ↔
      ∃ v, Spells s v ∧ v ∈ configured config .base := by
  have hspells : Spells "0x00Fb".toList 0xfb :=
    ⟨"00Fb".toList, by decide, by decide, by decide, by decide⟩
  obtain ⟨hconfig, hpoint⟩ := @allows_exact_iff display config display_documented .base
  have hwrong : ¬ ConfiguredRight config .base := by
    rintro ⟨hfactory, -⟩
    exact absurd hfactory (by decide)
  refine ⟨(hpoint _).mpr ?_, hwrong, fun h => hwrong (hconfig.mp h)⟩
  intro v hv
  rw [← hspells.unique hv]
  intro hconfigured
  exact absurd hconfigured (by decide)

end Beanie.Api.RpcProxy
