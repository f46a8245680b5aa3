import MagalixAgent.Go.Basic
import MagalixAgent.Go.UUID
import MagalixAgent.Go.Strings
import MagalixAgent.Go.Map
import MagalixAgent.Go.Json
import MagalixAgent.Go.Regexp
import MagalixAgent.Kuber.Objects
import MagalixAgent.Kuber.Mask
import MagalixAgent.Kuber.SetResources
import MagalixAgent.Kuber.Resources
import MagalixAgent.Kuber.PodNames
import MagalixAgent.Scraper.Types
import MagalixAgent.Scraper.RateTable
import MagalixAgent.Scraper.RateRun
import MagalixAgent.Scraper.Calls
import MagalixAgent.Scraper.NodeTask
import MagalixAgent.Scraper.GetMetrics
import MagalixAgent.Scraper.Interleaving
import MagalixAgent.Scraper.TaskCalls
import MagalixAgent.Scraper.Keys
import MagalixAgent.Scraper.Schedules
import MagalixAgent.Scraper.Scope
import MagalixAgent.Scraper.NodeRecords
import MagalixAgent.Scraper.Throttle
import MagalixAgent.Scraper.RawResponses
import MagalixAgent.Scraper.Cycles
import MagalixAgent.Scraper.PodContainers
import MagalixAgent.Scraper.Backoff
import MagalixAgent.Scraper.NodeCount
import MagalixAgent.Scraper.Retries
