import GraphBroker.Remote.Client

namespace GraphBroker.Remote

/-!
# URLs that name a host

A URL whose scheme is special is not read at all unless it names a host.  The host of a
URL that takes requests is therefore never empty, whatever is added to its path.
-/

theorem Address4.render_ne_empty
    (address : Nat) :
    render address ≠ "" := by
  simp [render, String.intercalate_cons_cons]

theorem Address6.render_ne_empty
    (groups : List Nat) :
    render groups ≠ "" := by
  unfold render
  split <;> simp

namespace Url

theorem domain?_ne_empty
    {chars : List Char}
    {domain : String}
    (read : domain? chars = some domain) :
    domain ≠ "" := by
  simp only [domain?, Option.bind_eq_bind, Option.bind_eq_some_iff] at read
  obtain ⟨text, -, ascii, -, written⟩ := read
  split at written
  · cases written
  · next allowed =>
      split at written
      · obtain ⟨address, -, rfl⟩ := Option.map_eq_some_iff.mp written
        exact Address4.render_ne_empty address
      · cases written
        intro empty
        have none : ascii = [] := by simpa using empty
        simp [none] at allowed

theorem host?_ne_empty
    {chars : List Char}
    {host : String}
    (read : host? true chars = some host) :
    host ≠ "" := by
  unfold host? at read
  split at read
  · split at read
    · obtain ⟨groups, -, rfl⟩ := Option.map_eq_some_iff.mp read
      exact Address6.render_ne_empty groups
    · cases read
  · exact domain?_ne_empty read

theorem host_ne_empty_of_authority?
    {scheme : String}
    (special : isSpecial scheme = true)
    {more : Bool}
    {chars rest : List Char}
    {authority : Authority}
    (read : authority? scheme more chars = some (authority, rest)) :
    authority.host ≠ "" := by
  simp only [authority?, special, Bool.true_or, if_true, Option.bind_eq_bind,
    Option.bind_eq_some_iff] at read
  obtain ⟨port, -, settled⟩ := read
  split at settled
  · cases settled
  · split at settled
    · cases settled
    · obtain ⟨host, named, same⟩ := Option.bind_eq_some_iff.mp settled
      cases same
      exact host?_ne_empty named

/-- What follows a scheme that takes requests names a host. -/
theorem names_host_of_ofScheme?
    {scheme : String}
    (http : scheme = "http" ∨ scheme = "https")
    {more : Bool}
    {chars : List Char}
    {hierarchy : Hierarchy}
    (read : Hierarchy.ofScheme? scheme more chars = some hierarchy) :
    ∃ authority, hierarchy.authority = some authority ∧ authority.host ≠ "" := by
  have special : isSpecial scheme = true := by
    rcases http with rfl | rfl <;> rfl
  have noFile : (scheme == "file") = false := by
    rcases http with rfl | rfl <;> rfl
  simp only [Hierarchy.ofScheme?, noFile, Bool.false_eq_true, if_false, special, if_true,
    Hierarchy.ofAuthority?, Option.bind_eq_bind, Option.bind_eq_some_iff] at read
  obtain ⟨⟨authority, rest⟩, named, same⟩ := read
  cases same
  exact ⟨authority, rfl, host_ne_empty_of_authority? special named⟩

theorem isHttp_iff
    {url : Url} :
    url.isHttp = true ↔ url.scheme = "http" ∨ url.scheme = "https" := by
  simp [isHttp]

theorem isSpecial_of_isHttp
    {url : Url}
    (http : url.isHttp = true) :
    isSpecial url.scheme = true := by
  rcases isHttp_iff.mp http with scheme | scheme <;> rw [scheme] <;> rfl

/-- A URL that takes requests names a host. -/
theorem hasHost_of_parse?
    {text : String}
    {url : Url}
    (read : parse? text = some url)
    (http : url.isHttp = true) :
    url.hasHost = true := by
  simp only [parse?, Option.bind_eq_bind, Option.bind_eq_some_iff] at read
  obtain ⟨⟨scheme, afterScheme⟩, -, hierarchy, follows, same⟩ := read
  cases same
  obtain ⟨authority, named, nonempty⟩ := names_host_of_ofScheme? (isHttp_iff.mp http) follows
  simpa [hasHost, host, named] using nonempty

end Url

namespace Client

variable {client : Client} {base : Url}

/-- Whatever is named beneath a server has an address. -/
theorem endpoint_eq_ok
    (read : Url.parse? client.base = some base)
    (names : List String) :
    client.endpoint names = .ok (base.extend names) := by
  rw [endpoint, read]

/-- Beneath a server that takes requests, whatever is named can be asked for. -/
theorem target_eq_ok
    (read : Url.parse? client.base = some base)
    (http : base.isHttp = true)
    (names : List String) :
    client.target names = .ok (base.extend names) := by
  -- Names are added to the path alone.
  have same : (base.extend names).hasHost = base.hasHost := rfl
  rw [target, endpoint_eq_ok read]
  exact if_pos (same.trans (Url.hasHost_of_parse? read http))

/-- A client for a server on the network. -/
def onNetwork : Client :=
  .ofServer ⟨"http://sd:5820", ⟨"admin", "admin"⟩⟩

end Client

end GraphBroker.Remote
