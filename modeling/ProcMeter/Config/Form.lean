import ProcMeter.Config
import ProcMeter.Process.Form

/-! Configurations as records. Every field may be left out. Names of more than one
word are also accepted with hyphens. -/
namespace ProcMeter.Config

/-- The spellings of the fields, in their order. -/
def fields : List (List String) :=
  [["procs"], ["env_whitelist", "env-whitelist"], ["cache_cmdline", "cache-cmdline"],
    ["cpu_ticks", "cpu-ticks"], ["enable_network", "enable-network"],
    ["network_metrics", "network-metrics"], ["enable_cgroups", "enable-cgroups"], ["hostfs"],
    ["interval_seconds", "interval-seconds"], ["log_level", "log-level"],
    ["include_top", "include-top"], ["cgroups"]]

def toJson (c : Config) : Json :=
  .obj
    [("procs", .strings c.procs), ("env_whitelist", .strings c.envWhitelist),
      ("cache_cmdline", .bool c.cacheIdentity), ("cpu_ticks", .bool c.reportTicks),
      ("enable_network", .bool c.enableNetwork),
      ("network_metrics", .ofOption .strings c.networkMetrics),
      ("enable_cgroups", .bool c.enableCgroups), ("hostfs", .str c.hostfs),
      ("interval_seconds", .ofUInt64 c.intervalSeconds),
      ("log_level", .ofOption .str c.logLevel), ("include_top", c.top.toJson),
      ("cgroups", .obj [("ignore_root_cgroups", .bool c.ignoreRootCgroups)])]

/-- Reads the record of control group settings. -/
def cgroupsOfRecord? {V : Type} (w : Notation V) (v : V) : Option Bool := do
  match ← w.slots? [["ignore_root_cgroups", "ignore-root-cgroups"]] v with
  | [ignoreRoot] => ignoreRoot.orDefault? true w.toBool?
  | _ => none

/-- Reads a configuration in any notation. -/
def ofRecord? {V : Type} (w : Notation V) (v : V) : Option Config := do
  match ← w.slots? fields v with
  | [procs, envWhitelist, cacheIdentity, reportTicks, enableNetwork, networkMetrics,
      enableCgroups, hostfs, interval, logLevel, top, cgroups] =>
    some
      { procs := ← procs.orDefault? [".*"] w.texts?
        envWhitelist := ← envWhitelist.orDefault? [] w.texts?
        cacheIdentity := ← cacheIdentity.orDefault? true w.toBool?
        reportTicks := ← reportTicks.orDefault? false w.toBool?
        enableNetwork := ← enableNetwork.orDefault? false w.toBool?
        networkMetrics := ← networkMetrics.orDefault? none (w.optional? w.texts?)
        enableCgroups := ← enableCgroups.orDefault? false w.toBool?
        hostfs := ← hostfs.orDefault? "/" w.toString?
        intervalSeconds := ← interval.orDefault? 10 w.toUInt64?
        logLevel := ← logLevel.orDefault? none (w.optional? w.toString?)
        top := ← top.orDefault? .off (TopRule.ofRecord? w)
        ignoreRootCgroups := ← cgroups.orDefault? true (cgroupsOfRecord? w) }
  | _ => none

def ofJson? (v : Json) : Option Config := ofRecord? Json.records v

end ProcMeter.Config
