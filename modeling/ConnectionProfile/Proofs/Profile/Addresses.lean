import ConnectionProfile.Proofs.Profile.Fields
import ConnectionProfile.Proofs.Profile.Pins

/-!
# Addresses of a profile

A new profile stores the addresses that it is given, each without one final slash. A profile that is
made again from its document, from its text or from its parts is given its own addresses, and an
identity server that it had none of before: the home server that was in force for it.
-/

namespace ConnectionProfile.Profile

open Overrides (stored)

-- ---------------------------------------------------------------------------
-- Stored addresses
-- ---------------------------------------------------------------------------

/-- What a document holds for the home server and for the identity server. -/
def addressesIn : Value → Option (Value × Value)
  | .map entries => some (stored serverKey entries, stored identityKey entries)
  | _ => none

/-- The profile stores the addresses `s` and `i` in their normal form. -/
structure Stores (p : Profile) (s : Text) (i : Option Text) : Prop where
  normal : ∀ uri ∈ s :: i.toList, Uri.CanNormalize uri
  server : p.server = .text (s.withoutFinal '/')
  identity : p.identity = .ofTextOption (i.map (Text.withoutFinal '/'))

theorem stores_of_create {server identity : Value} {c : Option Credentials} {pins : List Pin}
    {p : Profile} (h : (create server identity c pins).result = .ok p) :
    ∃ s i, server = .text s ∧ identity = .ofTextOption i ∧ Stores p s i := by
  obtain ⟨s, i, rfl, rfl, -, hs, hi, rfl⟩ := create_ok.1 h
  refine ⟨s, i, rfl, rfl, ?_, rfl, rfl⟩
  exact List.forall_mem_cons.2 ⟨hs, fun uri h => hi uri (Option.mem_toList.1 h)⟩

theorem stores_of_decode {v : Value} {p : Profile} (h : (decode v).result = .ok p) :
    ∃ s i, addressesIn v = some (.text s, .ofTextOption i) ∧ Stores p s i := by
  cases v with
  | map entries =>
    obtain ⟨s, i, _, _, hs, hi, -, -, hp⟩ := decode_ok_iff.1 h
    obtain ⟨s', i', ⟨⟩, hi', hstores⟩ := stores_of_create hp
    exact ⟨_, i', by rw [addressesIn, hs, hi, hi'], hstores⟩
  | _ => cases h

-- ---------------------------------------------------------------------------
-- Renewed addresses
-- ---------------------------------------------------------------------------

/-- The text of a value without one final slash. -/
def normalAddress (v : Value) : Value := .text (v.plain.withoutFinal '/')

/-- `q` has the addresses that are in force for `p`, in their normal form, for its own. -/
structure Renews (q p : Profile) : Prop where
  server : q.server = normalAddress p.server
  identity : q.identity = normalAddress p.effectiveIdentity

variable {p q : Profile}

theorem Stores.renews {s : Text} {i : Option Text} (h : Stores q s i) (hs : .text s = p.server)
    (hi : .ofTextOption i = p.effectiveIdentity) : Renews q p := by
  have hne : i ≠ none := by
    rintro rfl
    rw [effectiveIdentity, ← hs] at hi
    split at hi
    · cases hi
    · rename_i hn
      rw [← hi] at hn
      exact hn rfl
  obtain ⟨i, rfl⟩ := Option.ne_none_iff_exists'.1 hne
  refine ⟨?_, ?_⟩
  · rw [h.server, ← hs, normalAddress, Value.plain]
  · rw [h.identity, ← hi, Value.ofTextOption, normalAddress, Value.plain]
    rfl

theorem renews_of_create
    (h : (create p.server p.effectiveIdentity p.credentials p.pins).result = .ok q) :
    Renews q p := by
  obtain ⟨s, i, hs, hi, hq⟩ := stores_of_create h
  exact hq.renews hs.symm hi.symm

/-- A document that holds the texts of the addresses of a profile renews them. -/
theorem renews_of_addressesIn {v : Value} (h : (decode v).result = .ok q)
    (hv : addressesIn v = some (.text p.server.plain, .text p.effectiveIdentity.plain)) :
    Renews q p := by
  obtain ⟨s, i, ha, hq⟩ := stores_of_decode h
  rw [hv] at ha
  cases i with
  | none => cases ha
  | some i =>
    cases ha
    exact ⟨hq.server, hq.identity⟩

theorem renews_of_decode (h : (decode p.toDocument).result = .ok q) : Renews q p := by
  refine renews_of_addressesIn h ?_
  simp only [addressesIn, toDocument, stored, get?_serverKey, get?_identityKey, Option.getD_some]

theorem renews_of_ofText {layout : Json.Layout} (hl : layout.IsSpaced)
    (hs : p.server.plain.isUnicode = true) (hi : p.effectiveIdentity.plain.isUnicode = true)
    {t : Text} (ht : p.toText layout = .ok t) (h : (ofText (.text t)).result = .ok q) :
    Renews q p := by
  obtain ⟨v, hv, hq⟩ := Logged.bind_result_ok.1 h
  have hread {u : Text} (hu : u.isUnicode = true) :
      ∀ t, Json.print layout 1 (.text u) = .ok t → Json.Reads t (.ok (.text u)) := by
    rintro _ ⟨⟩
    have hr := Json.reads_quote layout.ascii u
    rwa [Json.readText_of_isUnicode _ hu] at hr
  obtain ⟨es, rfl, hserver⟩ := read_toText hl p.get?_serverKey (hread hs) ht (read_of_readJson hv)
  obtain ⟨es, ⟨⟩, hidentity⟩ :=
    read_toText hl p.get?_identityKey (hread hi) ht (read_of_readJson hv)
  refine renews_of_addressesIn (Logged.mapError_ok.1 hq) ?_
  rw [addressesIn, stored, stored, hserver, hidentity]
  rfl

end ConnectionProfile.Profile
