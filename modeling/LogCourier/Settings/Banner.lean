import LogCourier.Observe.LogLine
import LogCourier.Settings.Basic

/-!
# The banner

The log lines that tell at the start what the settings are; the credential is not among
them.
-/

namespace LogCourier

namespace Settings

/-- The lines of the banner. -/
def banner (s : Settings) : List LogLine := [
  ⟨.info, "Configuration loaded", [
    ("source", .text s.source.url),
    ("sink", .text s.sink.url),
    ("state_file", .text s.shipper.stateFile),
    ("poll_interval_secs", .nat s.shipper.pollIntervalSecs.toNat),
    ("page_size", .nat s.source.pageSize.toNat),
    ("max_pages_per_cycle", .nat s.source.maxPagesPerCycle.toNat),
    ("sub_batch_size", .nat s.sink.subBatchSize.toNat)]⟩,
  ⟨.info, "Query log shipper starting", [
    ("metrics", .text s.metrics.listenAddress),
    ("hostname_lookup", .bool s.resolver.enabled),
    ("dns_server", .text s.resolver.dnsServer),
    ("max_consecutive_failures", .nat s.shipper.maxConsecutiveFailures.toNat)]⟩]

end Settings

end LogCourier
