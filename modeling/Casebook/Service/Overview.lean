import Casebook.Service.Basic

/-!
# Overviews

A service as it is shown to those who look into it: its sources, its cache and its settings, each as a
name with its parts between braces.
-/

namespace Casebook

open Text (quoted)

def overview (name : String) (parts : List (String × String)) : String :=
  name ++ " \x7b " ++ ", ".intercalate (parts.map fun p => p.1 ++ ": " ++ p.2) ++ " \x7d"

def overviewOption : Option String → String
  | none => "None"
  | some s => s!"Some({quoted s})"

def TimelineSettings.overview (s : TimelineSettings) : String :=
  Casebook.overview "TimelineConfig" [("cache_ttl", s.completeTtl.text),
    ("degraded_ttl", s.degradedTtl.text), ("per_source_timeout", s.perSourceTimeout.text),
    ("aggregation_deadline", s.aggregationDeadline.text),
    ("order_service_url", overviewOption s.urls.order),
    ("payment_service_url", overviewOption s.urls.payment),
    ("fulfillment_service_url", overviewOption s.urls.fulfillment),
    ("cache_backend_url", quoted s.backendUrl), ("upstream_path", quoted s.path)]

namespace Service

def collectorOverview (s : Service) : String :=
  overview "TimelineAggregator" [("sources", "[" ++ ", ".intercalate (s.sources.map Source.title) ++ "]"),
    ("cache", s.store.describe), ("config", s.settings.overview)]

def renewerOverview (s : Service) : String :=
  overview "RefreshController" [("aggregator", s.collectorOverview)]

end Service
end Casebook
