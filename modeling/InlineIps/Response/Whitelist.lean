import Mathlib.Data.List.TakeWhile
import InlineIps.Capture.PacketGrammar
import InlineIps.Library.DottedDecimal
import InlineIps.Response.BlockList

/-!
# Loading the whitelist

`Whitelist::load` turns the strings of the configuration into addresses with `inet_pton`, which
reads a string up to its first NUL.

* `inetPton_readsDotted`: a reader of dotted decimal notation does what is asked of `inet_pton`.
* `load_configured_iff`: when the whitelist means what the strings say.
-/

namespace InlineIps

open Library DottedDecimal

/-- `struct in_addr`: the bytes of an address in network order. -/
structure InAddr where
  b0 : UInt8
  b1 : UInt8
  b2 : UInt8
  b3 : UInt8
  deriving DecidableEq

namespace InAddr

def bytes (addr : InAddr) : List UInt8 := [addr.b0, addr.b1, addr.b2, addr.b3]

/-- The address as a number, its bytes kept in memory order. -/
def sAddr (addr : InAddr) : UInt32 := PacketParser.addressAt addr.bytes 0

/-- The canonical notation of the address. -/
def dotted (addr : InAddr) : String := String.ofList (write addr.bytes)

theorem sAddr_injective {addr addr' : InAddr} (h : addr.sAddr = addr'.sAddr) : addr = addr' := by
  obtain ⟨a₀, a₁, a₂, a₃⟩ := addr
  obtain ⟨b₀, b₁, b₂, b₃⟩ := addr'
  have ha₀ := a₀.toNat_lt
  have ha₁ := a₁.toNat_lt
  have ha₂ := a₂.toNat_lt
  have ha₃ := a₃.toNat_lt
  have hb₀ := b₀.toNat_lt
  have hb₁ := b₁.toNat_lt
  have hb₂ := b₂.toNat_lt
  have hb₃ := b₃.toNat_lt
  have hnat := congrArg UInt32.toNat h
  simp only [sAddr, PacketParser.addressAt, bytes, List.getD_cons_zero, List.getD_cons_succ,
    UInt32.toNat_ofNat'] at hnat
  rw [Nat.mod_eq_of_lt (by omega), Nat.mod_eq_of_lt (by omega)] at hnat
  have h₀ : a₀ = b₀ := UInt8.toNat_inj.mp (by omega)
  have h₁ : a₁ = b₁ := UInt8.toNat_inj.mp (by omega)
  have h₂ : a₂ = b₂ := UInt8.toNat_inj.mp (by omega)
  have h₃ : a₃ = b₃ := UInt8.toNat_inj.mp (by omega)
  rw [h₀, h₁, h₂, h₃]

end InAddr

/-- The string in its entirety is the canonical notation of an address. -/
def IsDotted (s : String) : Prop := ∃ addr : InAddr, s = addr.dotted

def nul : Char := Char.ofNat 0

/-- What a C function sees of a string. -/
def upToNul (s : String) : String := String.ofList (s.toList.takeWhile (· ≠ nul))

/-- What the program relies on from `inet_pton`. -/
def ReadsDotted (inetPton : String → Option InAddr) : Prop :=
  ∀ s addr, inetPton s = some addr ↔ upToNul s = addr.dotted

theorem nul_notMem_dotted (addr : InAddr) : nul ∉ addr.dotted.toList := by
  rw [InAddr.dotted, String.toList_ofList]
  intro hmem
  rcases isDigit_or_dot hmem with hdigit | hdot
  · exact absurd hdigit (by decide)
  · exact absurd hdot (by decide)

theorem upToNul_of_notMem {s : String} (h : nul ∉ s.toList) : upToNul s = s := by
  rw [upToNul, List.takeWhile_eq_self_iff.mpr ?_, String.ofList_toList]
  intro c hc
  exact decide_eq_true fun heq => h (heq ▸ hc)

/-- `inet_pton(AF_INET, …)`. -/
def inetPton (s : String) : Option InAddr :=
  match read? (upToNul s).toList with
  | some [b0, b1, b2, b3] => some ⟨b0, b1, b2, b3⟩
  | _ => none

theorem inetPton_readsDotted : ReadsDotted inetPton := by
  intro s addr
  have hread : read? (upToNul s).toList = some addr.bytes ↔ (upToNul s).toList = write addr.bytes :=
    read?_eq_some_iff (by simp [InAddr.bytes])
  have htext : (upToNul s).toList = write addr.bytes ↔ upToNul s = addr.dotted := by
    rw [InAddr.dotted, ← String.toList_inj, String.toList_ofList]
  rw [← htext, ← hread]
  unfold inetPton
  split
  · rename_i b0 b1 b2 b3 heq
    rw [heq]
    obtain ⟨c0, c1, c2, c3⟩ := addr
    simp [InAddr.bytes]
  · rename_i hother
    refine iff_of_false (by simp) fun hsome => ?_
    exact hother _ _ _ _ hsome

namespace Whitelist

/-- `Whitelist::load`. -/
def load (inetPton : String → Option InAddr) (w : Whitelist) (ipStrings : List String) :
    Whitelist × Bool :=
  ipStrings.foldl (fun (w, ok) s =>
    match inetPton s with
    | some addr => (⟨insert addr.sAddr w.ips⟩, ok)
    | none => (w, false)) ({ w with ips := ∅ }, true)

/-! ## What is loaded -/

section Load

variable {pton : String → Option InAddr}

theorem load_snoc (w : Whitelist) (ipStrings : List String) (s : String) :
    w.load pton (ipStrings ++ [s]) =
      match pton s with
      | some addr => (⟨insert addr.sAddr (w.load pton ipStrings).1.ips⟩, (w.load pton ipStrings).2)
      | none => ((w.load pton ipStrings).1, false) := by
  simp [load]

theorem load_ok (w : Whitelist) (ipStrings : List String) :
    (w.load pton ipStrings).2 = true ↔ ∀ s ∈ ipStrings, ∃ addr, pton s = some addr := by
  induction ipStrings using List.reverseRecOn with
  | nil => simp [load]
  | append_singleton ipStrings s ih =>
    rw [load_snoc]
    cases hs : pton s with
    | none => simp [hs]
    | some addr => simp [ih, or_imp, forall_and, hs]

theorem mem_load (w : Whitelist) (ipStrings : List String) {ip : UInt32} :
    ip ∈ (w.load pton ipStrings).1.ips ↔
      ∃ s ∈ ipStrings, ∃ addr, pton s = some addr ∧ addr.sAddr = ip := by
  induction ipStrings using List.reverseRecOn with
  | nil => simp [load]
  | append_singleton ipStrings s ih =>
    rw [load_snoc]
    cases hs : pton s with
    | none => simp [ih, or_and_right, exists_or, hs]
    | some addr => simp [ih, or_and_right, exists_or, hs, eq_comm, or_comm]

variable (hpton : ReadsDotted pton)
include hpton

/-- Without NULs the strings are accepted when they are addresses. -/
theorem load_ok_of_noNul {ipStrings : List String} (hnul : ∀ s ∈ ipStrings, nul ∉ s.toList)
    (w : Whitelist) : (w.load pton ipStrings).2 = true ↔ ∀ s ∈ ipStrings, IsDotted s := by
  rw [load_ok]
  refine forall₂_congr fun s hs => exists_congr fun addr => ?_
  rw [hpton, upToNul_of_notMem (hnul s hs)]

theorem mem_load_of_noNul {ipStrings : List String} (hnul : ∀ s ∈ ipStrings, nul ∉ s.toList)
    (w : Whitelist) (addr : InAddr) :
    addr.sAddr ∈ (w.load pton ipStrings).1.ips ↔ addr.dotted ∈ ipStrings := by
  rw [mem_load]
  constructor
  · rintro ⟨s, hs, addr', haddr', hsame⟩
    rw [hpton, upToNul_of_notMem (hnul s hs)] at haddr'
    rw [← InAddr.sAddr_injective hsame, ← haddr']
    exact hs
  · intro hmem
    refine ⟨addr.dotted, hmem, addr, ?_, rfl⟩
    rw [hpton, upToNul_of_notMem (nul_notMem_dotted addr)]

end Load

/-- The source address of a packet. -/
def sourceAddress (data : List UInt8) : InAddr :=
  ⟨data.getD 12 0, data.getD 13 0, data.getD 14 0, data.getD 15 0⟩

theorem srcIp_eq {data : List UInt8} {packet : ParsedPacket}
    (h : PacketParser.parse data = some packet) :
    packet.tuple.srcIp = (sourceAddress data).sAddr := by
  rw [PacketParser.parse_eq] at h
  rcases PacketParser.decode_cases h with ⟨-, -, rfl⟩ | ⟨-, -, rfl⟩ | ⟨-, rfl⟩ <;> rfl

/-- The whitelist means what the strings of the configuration say, whatever was loaded before. -/
structure Configured (pton : String → Option InAddr) (w : Whitelist) (ipStrings : List String) :
    Prop where
  accepts : (w.load pton ipStrings).2 = true ↔ ∀ s ∈ ipStrings, IsDotted s
  exempts : (w.load pton ipStrings).2 = true → ∀ data packet,
    PacketParser.parse data = some packet →
      ((w.load pton ipStrings).1.isWhitelisted packet.tuple.srcIp = true ↔
        (sourceAddress data).dotted ∈ ipStrings)
  forgets : ∀ w' : Whitelist, w'.load pton ipStrings = w.load pton ipStrings

/-- **When the whitelist means what the configuration says.** No string contains a NUL, or one of
them is not an address up to its first NUL. -/
theorem load_configured_iff {pton : String → Option InAddr} (hpton : ReadsDotted pton)
    (w : Whitelist) (ipStrings : List String) :
    Configured pton w ipStrings ↔
      (∀ s ∈ ipStrings, nul ∉ s.toList) ∨ ∃ s ∈ ipStrings, ¬ IsDotted (upToNul s) := by
  constructor
  · intro h
    by_contra hnot
    obtain ⟨hnul, hdotted⟩ := not_or.mp hnot
    refine hnul fun s hs hmem => ?_
    have hok : (w.load pton ipStrings).2 = true := by
      rw [load_ok]
      intro s' hs'
      obtain ⟨addr, haddr⟩ := not_not.mp fun hno => hdotted ⟨s', hs', hno⟩
      exact ⟨addr, (hpton s' addr).mpr haddr⟩
    obtain ⟨addr, rfl⟩ := h.accepts.mp hok s hs
    exact nul_notMem_dotted addr hmem
  · rintro (hnul | ⟨s, hs, hnot⟩)
    · refine ⟨load_ok_of_noNul hpton hnul w, fun _ data packet hparse => ?_, fun _ => rfl⟩
      rw [isWhitelisted, decide_eq_true_iff, srcIp_eq hparse]
      exact mem_load_of_noNul hpton hnul w (sourceAddress data)
    · have hfail : ¬ (w.load pton ipStrings).2 = true := by
        rw [load_ok]
        intro hall
        obtain ⟨addr, haddr⟩ := hall s hs
        exact hnot ⟨addr, (hpton s addr).mp haddr⟩
      refine ⟨iff_of_false hfail fun hall => ?_, fun hok => absurd hok hfail, fun _ => rfl⟩
      obtain ⟨addr, rfl⟩ := hall s hs
      exact hnot ⟨addr, upToNul_of_notMem (nul_notMem_dotted addr)⟩

theorem load_configured_admin : Configured inetPton ⟨∅⟩ ["10.0.0.1", "192.168.56.1"] :=
  (load_configured_iff inetPton_readsDotted ⟨∅⟩ ["10.0.0.1", "192.168.56.1"]).mpr
    (.inl (by simp [nul]))

/-- An address with a NUL behind it is loaded as the address. -/
theorem load_misconfigured : ¬ Configured inetPton ⟨∅⟩ ["10.0.0.1\x00x"] := by
  intro h
  obtain ⟨addr, haddr⟩ := h.accepts.mp rfl _ (List.mem_singleton_self _)
  have hnul := nul_notMem_dotted addr
  rw [← haddr] at hnul
  exact hnul (by decide)

end Whitelist

end InlineIps
