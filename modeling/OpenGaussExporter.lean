import OpenGaussExporter.Utf8
import OpenGaussExporter.Fmt
import OpenGaussExporter.Time
import OpenGaussExporter.Prometheus
import OpenGaussExporter.Utils
import OpenGaussExporter.Row
import OpenGaussExporter.Scrape
import OpenGaussExporter.Series
import OpenGaussExporter.Params
import OpenGaussExporter.Config
import OpenGaussExporter.Collector
import OpenGaussExporter.Version
