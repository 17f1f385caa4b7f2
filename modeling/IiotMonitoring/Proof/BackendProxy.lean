import IiotMonitoring.Lib.UrlPath
import IiotMonitoring.Proof.Topics
import IiotMonitoring.Server.Routes
import IiotMonitoring.Web.BackendProxy

/-!
# What the proxy lets through

The allowed requests, form by form: each is a route that requires a user, on a path that no URL parser
changes.
-/

namespace IiotMonitoring.Web

/-! ### The allow-list -/

/-- The requests that are allowed. -/
inductive AllowedRequest : String → List Text → Prop where
  | me : AllowedRequest "GET" [codes "auth", codes "me"]
  | devices : AllowedRequest "GET" [codes "devices"]
  | device {id : Text} (hid : deviceId id = true) : AllowedRequest "GET" [codes "devices", id]
  | read {id : Text} {what : String} (hid : deviceId id = true) (hwhat : what ∈ deviceReads) :
      AllowedRequest "GET" [codes "devices", id, codes what]
  | create {id : Text} {what : String} (hid : deviceId id = true)
      (hwhat : what ∈ ["calibrations", "maintenance"]) :
      AllowedRequest "POST" [codes "devices", id, codes what]
  | thresholds {id : Text} (hid : deviceId id = true) :
      AllowedRequest "PUT" [codes "devices", id, codes "thresholds"]
  | relay {id : Text} (hid : deviceId id = true) :
      AllowedRequest "POST" [codes "devices", id, codes "commands", codes "relay"]
  | evaluation : AllowedRequest "GET" [codes "anomaly", codes "evaluation-demo"]
  | alarms : AllowedRequest "GET" [codes "alarms"]
  | acknowledge {id : Text} (hid : recordId id = true) :
      AllowedRequest "POST" [codes "alarms", id, codes "acknowledge"]
  | maintenance {id : Text} (hid : recordId id = true) :
      AllowedRequest "PATCH" [codes "maintenance", id]

theorem segmentIs_iff {segments : List Text} {index : Nat} {literal : String} :
    segmentIs segments index literal = true ↔ segments[index]? = some (codes literal) :=
  decide_eq_true_iff

/-- A device's request: its segments, from the facts that `requestIsAllowed` checks one by one. -/
theorem deviceSegments {segments : List Text} {length : Nat}
    (hdevices : segments[0]? = some (codes "devices")) (hid : deviceId (segments.getD 1 []) = true)
    (hlength : segments.length = length + 2) :
    ∃ id rest, segments = codes "devices" :: id :: rest ∧ rest.length = length ∧ deviceId id = true := by
  obtain ⟨first, id, rest, rfl⟩ : ∃ first id rest, segments = first :: id :: rest := by
    cases segments with
    | nil => cases hlength
    | cons first tail =>
        cases tail with
        | nil => cases hlength
        | cons id rest => exact ⟨first, id, rest, rfl⟩
  obtain rfl : first = codes "devices" := Option.some.inj hdevices
  exact ⟨id, rest, rfl, by simpa using hlength, hid⟩

theorem any_segmentIs {segments : List Text} {index : Nat} {literals : List String}
    (h : literals.any (segmentIs segments index) = true) :
    ∃ literal ∈ literals, segments[index]? = some (codes literal) := by
  obtain ⟨literal, hmem, hliteral⟩ := List.any_eq_true.mp h
  exact ⟨literal, hmem, segmentIs_iff.mp hliteral⟩

theorem allowedRequest_of {method : String} {segments : List Text}
    (h : requestIsAllowed method segments = true) : AllowedRequest method segments := by
  unfold requestIsAllowed at h
  simp only [Bool.and_eq_true, decide_eq_true_iff, segmentIs_iff, Bool.not_eq_true'] at h
  split_ifs at h with hme hdevices hall hid hone hread hcreate hput hrelay hdemo halarms hlist
  · obtain ⟨⟨⟨rfl, hlength⟩, hfirst⟩, hsecond⟩ := hme
    obtain ⟨first, second, rfl⟩ := List.length_eq_two.mp hlength
    obtain rfl : first = codes "auth" := Option.some.inj hfirst
    obtain rfl : second = codes "me" := Option.some.inj hsecond
    exact .me
  · obtain ⟨rfl, hlength⟩ := hall
    obtain ⟨first, rfl⟩ := List.length_eq_one_iff.mp hlength
    obtain rfl : first = codes "devices" := Option.some.inj hdevices
    exact .devices
  · obtain ⟨rfl, hlength⟩ := hone
    obtain ⟨id, rest, rfl, hrest, hdevice⟩ := deviceSegments hdevices (Bool.of_not_eq_false hid) hlength
    obtain rfl := List.length_eq_zero_iff.mp hrest
    exact .device hdevice
  · obtain ⟨⟨rfl, hlength⟩, hliteral⟩ := hread
    obtain ⟨id, rest, rfl, hrest, hdevice⟩ := deviceSegments hdevices (Bool.of_not_eq_false hid) hlength
    obtain ⟨third, rfl⟩ := List.length_eq_one_iff.mp hrest
    obtain ⟨what, hwhat, hthird⟩ := any_segmentIs hliteral
    obtain rfl : third = codes what := Option.some.inj hthird
    exact .read hdevice hwhat
  · obtain ⟨⟨rfl, hlength⟩, hliteral⟩ := hcreate
    obtain ⟨id, rest, rfl, hrest, hdevice⟩ := deviceSegments hdevices (Bool.of_not_eq_false hid) hlength
    obtain ⟨third, rfl⟩ := List.length_eq_one_iff.mp hrest
    obtain ⟨what, hwhat, hthird⟩ := any_segmentIs hliteral
    obtain rfl : third = codes what := Option.some.inj hthird
    exact .create hdevice hwhat
  · obtain ⟨⟨rfl, hlength⟩, hthird⟩ := hput
    obtain ⟨id, rest, rfl, hrest, hdevice⟩ := deviceSegments hdevices (Bool.of_not_eq_false hid) hlength
    obtain ⟨third, rfl⟩ := List.length_eq_one_iff.mp hrest
    obtain rfl : third = codes "thresholds" := Option.some.inj hthird
    exact .thresholds hdevice
  · obtain ⟨⟨⟨rfl, hlength⟩, hthird⟩, hfourth⟩ := hrelay
    obtain ⟨id, rest, rfl, hrest, hdevice⟩ := deviceSegments hdevices (Bool.of_not_eq_false hid) hlength
    obtain ⟨third, fourth, rfl⟩ := List.length_eq_two.mp hrest
    obtain rfl : third = codes "commands" := Option.some.inj hthird
    obtain rfl : fourth = codes "relay" := Option.some.inj hfourth
    exact .relay hdevice
  · obtain ⟨⟨⟨rfl, hlength⟩, hfirst⟩, hsecond⟩ := hdemo
    obtain ⟨first, second, rfl⟩ := List.length_eq_two.mp hlength
    obtain rfl : first = codes "anomaly" := Option.some.inj hfirst
    obtain rfl : second = codes "evaluation-demo" := Option.some.inj hsecond
    exact .evaluation
  · obtain ⟨rfl, hlength⟩ := hlist
    obtain ⟨first, rfl⟩ := List.length_eq_one_iff.mp hlength
    obtain rfl : first = codes "alarms" := Option.some.inj halarms
    exact .alarms
  · simp only [Bool.and_eq_true, decide_eq_true_iff, segmentIs_iff] at h
    obtain ⟨⟨⟨rfl, hlength⟩, hid⟩, hthird⟩ := h
    obtain ⟨first, id, third, rfl⟩ := List.length_eq_three.mp hlength
    obtain rfl : first = codes "alarms" := Option.some.inj halarms
    obtain rfl : third = codes "acknowledge" := Option.some.inj hthird
    exact .acknowledge hid
  · simp only [Bool.and_eq_true, decide_eq_true_iff, segmentIs_iff] at h
    obtain ⟨⟨⟨rfl, hlength⟩, hfirst⟩, hid⟩ := h
    obtain ⟨first, id, rfl⟩ := List.length_eq_two.mp hlength
    obtain rfl : first = codes "maintenance" := Option.some.inj hfirst
    exact .maintenance hid

/-! ### Its segments -/

instance (code : Nat) : Decidable (IdentifierCode code) :=
  inferInstanceAs (Decidable (_ ∨ _ ∨ _))

/-- Letters, digits and hyphens, or the name of the export. -/
def ProxySegment (segment : Text) : Prop :=
  (segment ≠ [] ∧ ∀ code ∈ segment, IdentifierCode code) ∨ segment = codes "export.csv"

instance (segment : Text) : Decidable (ProxySegment segment) :=
  inferInstanceAs (Decidable ((_ ∧ _) ∨ _))

theorem proxySegment_deviceId {id : Text} (h : deviceId id = true) : ProxySegment id := by
  have hid := (identifierPattern_iff id).mp h
  exact .inl ⟨hid.nonempty, hid.codes⟩

theorem identifierCode_digit {code : Nat} (h : isDecimalDigit code = true) : IdentifierCode code := by
  simp only [isDecimalDigit, Bool.and_eq_true, decide_eq_true_iff] at h
  exact .inr (.inl h)

theorem proxySegment_recordId {id : Text} (h : recordId id = true) : ProxySegment id := by
  cases id with
  | nil => cases h
  | cons head tail =>
      simp only [recordId, Bool.and_eq_true, decide_eq_true_iff, List.all_eq_true] at h
      obtain ⟨⟨⟨hhead, -⟩, htail⟩, -⟩ := h
      refine .inl ⟨List.cons_ne_nil _ _, ?_⟩
      intro code hcode
      rcases List.mem_cons.mp hcode with rfl | hcode
      · exact identifierCode_digit hhead
      · exact identifierCode_digit (htail code hcode)

/-- The literals of the allow-list. -/
def proxyLiterals : List String :=
  ["auth", "me", "devices", "relay", "anomaly", "evaluation-demo", "alarms", "acknowledge"] ++ deviceReads

theorem proxySegment_literal : ∀ literal ∈ proxyLiterals, ProxySegment (codes literal) := by
  decide

theorem deviceReads_subset : ∀ what ∈ deviceReads, what ∈ proxyLiterals := by decide

theorem deviceWrites_subset : ∀ what ∈ ["calibrations", "maintenance"], what ∈ proxyLiterals := by
  decide

theorem AllowedRequest.proxySegments {method : String} {segments : List Text}
    (h : AllowedRequest method segments) : ∀ segment ∈ segments, ProxySegment segment := by
  have hdevices : ProxySegment (codes "devices") := proxySegment_literal _ (by decide)
  have halarms : ProxySegment (codes "alarms") := proxySegment_literal _ (by decide)
  cases h with
  | me =>
      rw [List.forall_mem_cons, List.forall_mem_singleton]
      exact ⟨proxySegment_literal _ (by decide), proxySegment_literal _ (by decide)⟩
  | devices => exact List.forall_mem_singleton.mpr hdevices
  | device hid =>
      rw [List.forall_mem_cons, List.forall_mem_singleton]
      exact ⟨hdevices, proxySegment_deviceId hid⟩
  | read hid hwhat =>
      rw [List.forall_mem_cons, List.forall_mem_cons, List.forall_mem_singleton]
      exact ⟨hdevices, proxySegment_deviceId hid, proxySegment_literal _ (deviceReads_subset _ hwhat)⟩
  | create hid hwhat =>
      rw [List.forall_mem_cons, List.forall_mem_cons, List.forall_mem_singleton]
      exact ⟨hdevices, proxySegment_deviceId hid, proxySegment_literal _ (deviceWrites_subset _ hwhat)⟩
  | thresholds hid =>
      rw [List.forall_mem_cons, List.forall_mem_cons, List.forall_mem_singleton]
      exact ⟨hdevices, proxySegment_deviceId hid, proxySegment_literal _ (by decide)⟩
  | relay hid =>
      rw [List.forall_mem_cons, List.forall_mem_cons, List.forall_mem_cons, List.forall_mem_singleton]
      exact ⟨hdevices, proxySegment_deviceId hid, proxySegment_literal _ (by decide),
        proxySegment_literal _ (by decide)⟩
  | evaluation =>
      rw [List.forall_mem_cons, List.forall_mem_singleton]
      exact ⟨proxySegment_literal _ (by decide), proxySegment_literal _ (by decide)⟩
  | alarms => exact List.forall_mem_singleton.mpr halarms
  | acknowledge hid =>
      rw [List.forall_mem_cons, List.forall_mem_cons, List.forall_mem_singleton]
      exact ⟨halarms, proxySegment_recordId hid, proxySegment_literal _ (by decide)⟩
  | maintenance hid =>
      rw [List.forall_mem_cons, List.forall_mem_singleton]
      exact ⟨proxySegment_literal _ (by decide), proxySegment_recordId hid⟩

theorem AllowedRequest.segments_ne {method : String} {segments : List Text}
    (h : AllowedRequest method segments) : segments ≠ [] := by
  cases h <;> exact List.cons_ne_nil _ _

/-! ### What a segment does not contain -/

/-- A segment that stands for itself in a path. -/
structure CleanSegment (segment : Text) : Prop where
  nonempty : segment ≠ []
  noDot : segment ≠ codes "."
  noDots : segment ≠ codes ".."
  content : ∀ code ∈ segment, code ∉ codes "%/\\?#"

theorem identifierCode_clean {code : Nat} (h : IdentifierCode code) :
    inPathSet code = false ∧ isPathSlash code = false ∧ code ∉ codes "%/\\?#" ∧ code ≠ 46 ∧
      lowerCode code = code := by
  have hmarks : codes "%/\\?#" = [37, 47, 92, 63, 35] := by decide
  have hset : inPathSet code = false := by
    simp only [inPathSet, Bool.or_eq_false_iff, decide_eq_false_iff_not, List.contains_eq_mem,
      List.mem_cons, List.not_mem_nil, or_false, not_or]
    unfold IdentifierCode at h
    omega
  have hslash : isPathSlash code = false := by
    simp only [isPathSlash, Bool.or_eq_false_iff, decide_eq_false_iff_not]
    unfold IdentifierCode at h
    omega
  have hlower : lowerCode code = code := by
    apply if_neg
    unfold IdentifierCode at h
    omega
  refine ⟨hset, hslash, ?_, ?_, hlower⟩
  · rw [hmarks]
    simp only [List.mem_cons, List.not_mem_nil, or_false, not_or]
    unfold IdentifierCode at h
    omega
  · unfold IdentifierCode at h
    omega

theorem ProxySegment.codes_ne {segment dotted : Text} (hcodes : ∀ code ∈ segment, IdentifierCode code)
    (hdotted : 46 ∈ dotted ∨ 37 ∈ dotted) : segment ≠ dotted := by
  rintro rfl
  rcases hdotted with hmem | hmem
  · exact (identifierCode_clean (hcodes 46 hmem)).2.2.2.1 rfl
  · have hpercent := hcodes 37 hmem
    unfold IdentifierCode at hpercent
    omega

/-- It is none of the spellings of a dot segment. -/
theorem ProxySegment.not_dotted {segment : Text} {dots : List Text}
    (hcodes : ∀ code ∈ segment, IdentifierCode code) (hdots : ∀ dotted ∈ dots, 46 ∈ dotted ∨ 37 ∈ dotted) :
    dots.contains (segment.map lowerCode) = false := by
  have hlower : segment.map lowerCode = segment := by
    calc segment.map lowerCode = segment.map id :=
          List.map_congr_left fun code hcode => (identifierCode_clean (hcodes code hcode)).2.2.2.2
      _ = segment := List.map_id segment
  rw [hlower, List.contains_eq_mem, decide_eq_false_iff_not]
  exact fun hmem => codes_ne hcodes (hdots segment hmem) rfl

theorem ProxySegment.plain {segment : Text} (h : ProxySegment segment) : PlainSegment segment := by
  rcases h with ⟨-, hcodes⟩ | rfl
  · refine ⟨?_, not_dotted hcodes (by decide), not_dotted hcodes (by decide)⟩
    intro code hcode
    obtain ⟨hset, hslash, -⟩ := identifierCode_clean (hcodes code hcode)
    exact ⟨hset, hslash⟩
  · exact ⟨by decide, by decide, by decide⟩

theorem ProxySegment.clean {segment : Text} (h : ProxySegment segment) : CleanSegment segment := by
  rcases h with ⟨hnonempty, hcodes⟩ | rfl
  · refine ⟨hnonempty, ?_, ?_, ?_⟩
    · exact codes_ne hcodes (by decide)
    · exact codes_ne hcodes (by decide)
    · exact fun code hcode => (identifierCode_clean (hcodes code hcode)).2.2.1
  · exact ⟨by decide, by decide, by decide, by decide⟩

/-! ### The route that serves it -/

/-- The segments of the path, with those of the prefix. -/
theorem backendPath_eq {segments : List Text} (h : segments ≠ []) :
    backendPath segments = 47 :: [47].intercalate (codes "api" :: codes "v1" :: segments) := by
  obtain ⟨first, rest, rfl⟩ := List.exists_cons_of_ne_nil h
  rw [List.intercalate_cons_cons, List.intercalate_cons_cons, ← List.append_assoc, ← List.append_assoc,
    ← List.cons_append]
  have hfront : codes "/api/v1/" = 47 :: (codes "api" ++ [47] ++ codes "v1" ++ [47]) := by
    decide
  unfold backendPath
  rw [hfront]

theorem matchesPath_backendPath {segments : List Text} (hsegments : segments ≠ [])
    (hproxy : ∀ segment ∈ segments, ProxySegment segment) (route : ApiRoute) :
    route.matchesPath (backendPath segments) =
      partsMatch route.path (codes "api" :: codes "v1" :: segments) := by
  have hslash : ∀ segment ∈ codes "api" :: codes "v1" :: segments, 47 ∉ segment := by
    rw [List.forall_mem_cons, List.forall_mem_cons]
    refine ⟨by decide, by decide, ?_⟩
    intro segment hsegment hcode
    exact (hproxy segment hsegment).clean.content 47 hcode (by decide)
  unfold ApiRoute.matchesPath
  rw [backendPath_eq hsegments, List.drop_one, List.tail_cons,
    List.splitOn_intercalate _ hslash (List.cons_ne_nil _ _)]
  exact Bool.true_and _

theorem partsMatch_literals (texts : List String) : partsMatch (texts.map .literal) (texts.map codes) = true := by
  induction texts with
  | nil => rfl
  | cons text rest ih =>
      rw [List.map_cons, List.map_cons, partsMatch, ih, decide_eq_true rfl]
      rfl

theorem eq_of_partsMatch_literals {texts : List String} {segments : List Text}
    (h : partsMatch (texts.map .literal) segments = true) : segments = texts.map codes := by
  induction texts generalizing segments with
  | nil =>
      cases segments with
      | nil => rfl
      | cons segment rest => cases h
  | cons text texts ih =>
      cases segments with
      | nil => cases h
      | cons segment rest =>
          rw [List.map_cons, partsMatch, Bool.and_eq_true, decide_eq_true_iff] at h
          rw [List.map_cons, ih h.2, h.1]

/-- The paths of the routes without a user are literals. -/
theorem openRoutes_literal : ∀ route ∈ apiRoutes, route.currentUser = false →
    ∃ texts ∈ [["healthz"], ["api", "v1", "auth", "token"], ["internal", "v1", "telemetry"], ["api", "v1", "ws"]],
      route.path = texts.map .literal := by decide

/-- An allowed request is for none of these paths. -/
theorem AllowedRequest.not_open {method : String} {segments : List Text}
    (h : AllowedRequest method segments) {texts : List String} (htexts : texts ∈ [["healthz"],
      ["api", "v1", "auth", "token"], ["internal", "v1", "telemetry"], ["api", "v1", "ws"]]) :
    codes "api" :: codes "v1" :: segments ≠ texts.map codes := by
  simp only [List.mem_cons, List.not_mem_nil, or_false] at htexts
  rcases htexts with rfl | rfl | rfl | rfl
  · simp
  · cases h <;> simp [codes_injective.eq_iff]
  · simp [codes_injective.eq_iff]
  · cases h <;> simp [codes_injective.eq_iff]

/-- The routes that its path matches require a user. -/
theorem AllowedRequest.currentUser {method : String} {segments : List Text}
    (h : AllowedRequest method segments) :
    ∀ route ∈ apiRoutes, route.matchesPath (backendPath segments) = true → route.currentUser = true := by
  intro route hroute hmatches
  rw [matchesPath_backendPath h.segments_ne h.proxySegments] at hmatches
  by_contra hopen
  obtain ⟨texts, htexts, hpath⟩ := openRoutes_literal route hroute (Bool.of_not_eq_true hopen)
  rw [hpath] at hmatches
  exact h.not_open htexts (eq_of_partsMatch_literals hmatches)

theorem partsMatch_deviceRoute {method : String} {id : Text} (hid : deviceId id = true)
    (path : List String) : partsMatch (deviceRoute method path).path
      (codes "api" :: codes "v1" :: codes "devices" :: id :: path.map codes) = true := by
  have hnonempty := (proxySegment_deviceId hid).clean.nonempty
  unfold deviceRoute userRoute
  simp only [partsMatch, partsMatch_literals, hnonempty, decide_true, ne_eq, not_false_eq_true, Bool.and_self]

/-- One of the routes of its method matches. -/
theorem AllowedRequest.served {method : String} {segments : List Text}
    (h : AllowedRequest method segments) : ∃ route ∈ apiRoutes, route.protocol = .http method ∧
      partsMatch route.path (codes "api" :: codes "v1" :: segments) = true := by
  cases h with
  | me => exact ⟨userRoute "GET" [.literal "auth", .literal "me"], by decide, rfl,
      partsMatch_literals ["api", "v1", "auth", "me"]⟩
  | devices => exact ⟨userRoute "GET" [.literal "devices"], by decide, rfl,
      partsMatch_literals ["api", "v1", "devices"]⟩
  | device hid => exact ⟨deviceRoute "GET" [], by decide, rfl, partsMatch_deviceRoute hid []⟩
  | @read id what hid hwhat =>
      have hroute : ∀ what ∈ deviceReads, deviceRoute "GET" [what] ∈ apiRoutes := by decide
      exact ⟨deviceRoute "GET" [what], hroute what hwhat, rfl, partsMatch_deviceRoute hid [what]⟩
  | @create id what hid hwhat =>
      have hroute : ∀ what ∈ ["calibrations", "maintenance"], deviceRoute "POST" [what] ∈ apiRoutes := by
        decide
      exact ⟨deviceRoute "POST" [what], hroute what hwhat, rfl, partsMatch_deviceRoute hid [what]⟩
  | thresholds hid =>
      exact ⟨deviceRoute "PUT" ["thresholds"], by decide, rfl, partsMatch_deviceRoute hid ["thresholds"]⟩
  | relay hid =>
      exact ⟨deviceRoute "POST" ["commands", "relay"], by decide, rfl,
        partsMatch_deviceRoute hid ["commands", "relay"]⟩
  | evaluation =>
      exact ⟨userRoute "GET" [.literal "anomaly", .literal "evaluation-demo"], by decide, rfl,
        partsMatch_literals ["api", "v1", "anomaly", "evaluation-demo"]⟩
  | alarms => exact ⟨userRoute "GET" [.literal "alarms"], by decide, rfl,
      partsMatch_literals ["api", "v1", "alarms"]⟩
  | acknowledge hid =>
      refine ⟨userRoute "POST" [.literal "alarms", .parameter "alarm_id", .literal "acknowledge"], by decide,
        rfl, ?_⟩
      have hnonempty := (proxySegment_recordId hid).clean.nonempty
      simp only [userRoute, partsMatch, hnonempty, decide_true, ne_eq, not_false_eq_true, Bool.and_self]
  | maintenance hid =>
      refine ⟨userRoute "PATCH" [.literal "maintenance", .parameter "record_id"], by decide, rfl, ?_⟩
      have hnonempty := (proxySegment_recordId hid).clean.nonempty
      simp only [userRoute, partsMatch, hnonempty, decide_true, ne_eq, not_false_eq_true, Bool.and_self]

theorem AllowedRequest.findRoute_eq {method : String} {segments : List Text}
    (h : AllowedRequest method segments) : ∃ route, findRoute method (backendPath segments) = some route ∧
      route ∈ apiRoutes ∧ route.protocol = .http method ∧ route.currentUser = true := by
  obtain ⟨served, hserved, hprotocol, hparts⟩ := h.served
  have hsome : (findRoute method (backendPath segments)).isSome = true := by
    apply List.find?_isSome.mpr
    refine ⟨served, hserved, ?_⟩
    rw [Bool.and_eq_true, decide_eq_true_iff, matchesPath_backendPath h.segments_ne h.proxySegments]
    exact ⟨hprotocol, hparts⟩
  obtain ⟨route, hroute⟩ := Option.isSome_iff_exists.mp hsome
  have hmem : route ∈ apiRoutes := List.mem_of_find?_eq_some hroute
  have hfound := List.find?_some hroute
  rw [Bool.and_eq_true, decide_eq_true_iff] at hfound
  exact ⟨route, hroute, hmem, hfound.1, h.currentUser route hmem hfound.2⟩

/-! ### The request that is sent on -/

/-- A request that stays within the routes of a user: what its path is, what serves it and what does
not. -/
structure ReachesUserRoute (method : String) (segments : List Text) (path : Text) : Prop where
  segments : ∀ segment ∈ segments, CleanSegment segment
  below : codes "/api/v1/" <+: path
  normal : urlPath path = path
  served : ∃ route, findRoute method path = some route ∧ route ∈ apiRoutes ∧
    route.protocol = .http method ∧ route.currentUser = true
  users : ∀ route ∈ apiRoutes, route.matchesPath path = true → route.currentUser = true

/-- An allowed request reaches a public route that requires a user, and only such a request is sent. -/
theorem requestIsAllowed_reaches (method : String) (segments : List Text) :
    (requestIsAllowed method segments = true → ReachesUserRoute method segments (backendPath segments)) ∧
      ∀ isSameOrigin origin token sent path,
        forward isSameOrigin ⟨method, segments, origin, token⟩ = .fetched sent path →
          sent = method ∧ path = backendPath segments ∧ requestIsAllowed method segments = true := by
  constructor
  · intro h
    have hallowed := allowedRequest_of h
    refine ⟨fun segment hsegment => (hallowed.proxySegments segment hsegment).clean,
      List.prefix_append _ _, ?_, hallowed.findRoute_eq, hallowed.currentUser⟩
    rw [backendPath_eq hallowed.segments_ne]
    apply urlPath_plain (List.cons_ne_nil _ _)
    rw [List.forall_mem_cons, List.forall_mem_cons]
    have hfront : PlainSegment (codes "api") ∧ PlainSegment (codes "v1") :=
      ⟨⟨by decide, by decide, by decide⟩, by decide, by decide,
        by decide⟩
    exact ⟨hfront.1, hfront.2, fun segment hsegment => (hallowed.proxySegments segment hsegment).plain⟩
  · intro isSameOrigin origin token sent path h
    unfold forward at h
    split_ifs at h with hrefused horigin htoken
    cases h
    exact ⟨rfl, rfl, by simpa using hrefused⟩

theorem readTelemetry_reaches :
    requestIsAllowed "GET" [codes "devices", codes "motor-01", codes "telemetry"] = true ∧
      ReachesUserRoute "GET" [codes "devices", codes "motor-01", codes "telemetry"]
        (backendPath [codes "devices", codes "motor-01", codes "telemetry"]) :=
  ⟨by decide, (requestIsAllowed_reaches _ _).1 (by decide)⟩

end IiotMonitoring.Web
