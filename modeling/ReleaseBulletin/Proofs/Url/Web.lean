import ReleaseBulletin.Url.Reader

/-!
Web addresses that were read have a host and a path made of segments.
-/
namespace ReleaseBulletin.Url.Reader
open Host

/-- What a web address that was read has. -/
structure HasPlace (u : Url) : Prop where
  path : ∃ parts, u.path = .segments parts
  host : u.host?.isSome = true

theorem bind_eq_ok {α β : Type} {x : Except Fault α} {f : α → Except Fault β} {b : β}
    (h : (x >>= f) = .ok b) : ∃ a, x = .ok a ∧ f a = .ok b := by
  cases x with
  | error e => cases h
  | ok a => exact ⟨a, rfl, h⟩

theorem ofWeb_ne_nameless {cs : List Char} {host : Host} (h : ofWeb cs = .ok host) :
    host ≠ .name "" := by
  unfold ofWeb at h
  split at h
  · split at h
    · split at h
      · cases h
        simp
      · cases h
    · cases h
  · split at h
    · cases h
    · split at h
      · cases h
      · cases h
      · next domain hne _ =>
        split at h
        · split at h
          · cases h
            simp
          · cases h
        · cases h
          rw [Ne, Host.name.injEq, String.ofList_eq_empty_iff]
          exact fun hnil => hne (by rw [hnil])

theorem isSome_hostAndPort {scheme : String} (hweb : isWeb scheme = true) {cs : List Char}
    {found : Option Host × Option Nat} (h : hostAndPort scheme cs = .ok found) :
    found.1.isSome = true := by
  rw [hostAndPort] at h
  simp only [hweb, Bool.true_and, if_true] at h
  split at h
  · cases h
  · obtain ⟨host, hhost, h⟩ := bind_eq_ok h
    rw [if_neg (ofWeb_ne_nameless hhost)] at h
    split at h
    · obtain ⟨n, -, h⟩ := bind_eq_ok h
      cases h
      rfl
    · cases h
      rfl

theorem isSome_authority {scheme : String} (hweb : isWeb scheme = true) {cs : List Char}
    {a : Authority} (h : authority scheme cs = .ok a) : a.host.isSome = true := by
  rw [authority] at h
  split at h
  · obtain ⟨⟨host, port⟩, hhost, h⟩ := bind_eq_ok h
    cases h
    exact isSome_hostAndPort hweb hhost
  · dsimp only at h
    split at h
    · cases h
    · obtain ⟨⟨host, port⟩, hhost, h⟩ := bind_eq_ok h
      dsimp only at h
      split at h
      · cases h
      · cases h
        exact isSome_hostAndPort hweb hhost

theorem scheme_withAuthority {scheme : String} {cs : List Char} {u : Url}
    (h : withAuthority scheme cs = .ok u) :
    u.scheme = scheme ∧ (isWeb scheme = true → HasPlace u) := by
  rw [withAuthority] at h
  obtain ⟨a, ha, h⟩ := bind_eq_ok h
  cases h
  exact ⟨rfl, fun hweb => ⟨⟨_, rfl⟩, isSome_authority hweb ha⟩⟩

theorem scheme_ofFile {cs : List Char} {u : Url} (h : ofFile cs = .ok u) : u.scheme = "file" := by
  unfold ofFile at h
  split at h
  · split at h
    · obtain ⟨host, -, h⟩ := bind_eq_ok h
      cases h
      rfl
    · cases h
      rfl
  · cases h
    rfl

theorem scheme_ofPlain (scheme : String) (cs : List Char) : (ofPlain scheme cs).scheme = scheme := by
  unfold ofPlain
  dsimp only
  split <;> rfl

theorem hasPlace_ofScheme {scheme : String} {cs : List Char} {u : Url}
    (h : ofScheme scheme cs = .ok u) (hweb : isWeb u.scheme = true) : HasPlace u := by
  unfold ofScheme at h
  split at h
  · rw [scheme_ofFile h] at hweb
    cases hweb
  · split at h
    · next hscheme => exact (scheme_withAuthority h).2 hscheme
    · next hscheme =>
      have hu : u.scheme = scheme := by
        split at h
        · exact (scheme_withAuthority h).1
        · cases h
          exact scheme_ofPlain scheme _
      exact absurd (hu ▸ hweb) hscheme

/-- A web address that was read has a host and a path made of segments. -/
theorem hasPlace_of_read {s : String} {u : Url} (h : read s = .ok u)
    (hweb : isWeb u.scheme = true) : HasPlace u := by
  unfold read at h
  split at h
  · cases h
  · exact hasPlace_ofScheme h hweb

end ReleaseBulletin.Url.Reader
