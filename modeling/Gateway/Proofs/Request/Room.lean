import Gateway.Proofs.Header.Room
import Gateway.Proofs.Request.Given

/-!
# Room for the headers of a request

Reading a request takes a header map with room for its headers. There is room when no more variables
give headers than a map has names (`hasRoom_of_ncard_le`), and none when they give more names
(`not_hasRoom_of_lt_ncard`). Between the two it depends on the order in which the variables are
listed, unless each header is given once; then there is room again for fewer headers
(`HasRoom.mono`).
-/

namespace Gateway.Environment

variable {e e' : Environment}

/-- Variables that each give another header give different names. -/
theorem nodup_givenHeaders (he : ∀ n, e.GivenOnce n) : (e.givenHeaders.map Prod.fst).Nodup := by
  have hkeys : e.toList.Pairwise fun p q => p.1 ≠ q.1 := List.pairwise_map.mp e.vars.nodup_keys
  rw [givenHeaders, List.Nodup, List.pairwise_map, List.pairwise_filterMap]
  refine hkeys.imp_of_mem ?_
  rintro ⟨j, v⟩ ⟨k, w⟩ hj hk hne ⟨n, a⟩ hx ⟨m, b⟩ hy rfl
  refine hne (he n j k v w ?_ ?_ (headerOf?_eq_some_iff.mp hx).1 (headerOf?_eq_some_iff.mp hy).1)
  · exact (Table.get?_eq_some_iff e.vars j v).mpr hj
  · exact (Table.get?_eq_some_iff e.vars k w).mpr hk

/-- What has room for the headers of some variables has room for those of fewer. -/
theorem HasRoom.mono (h : e.HasRoom) (he : ∀ n, e.GivenOnce n)
    (hgiven : ∀ n key v, e'.get? key = some v → Gives key v n → e.get? key = some v) :
    e'.HasRoom := by
  have honce : ∀ n, e'.GivenOnce n := by
    intro n j k v w hj hk hjn hkn
    exact he n j k v w (hgiven n j v hj hjn) (hgiven n k w hk hkn) hjn hkn
  have hsub : e'.givenHeaders ⊆ e.givenHeaders := by
    intro x hx
    obtain ⟨key, v, hget, hgives, hvalue⟩ := mem_givenHeaders_iff.mp hx
    exact mem_givenHeaders_iff.mpr ⟨key, v, hgiven x.1 key v hget hgives, hgives, hvalue⟩
  rw [HasRoom, Bool.eq_false_iff, ne_eq] at h ⊢
  exact fun hover => h (HeaderMap.overflows_mono (nodup_givenHeaders honce) hsub hover)

end Gateway.Environment
