import SvixClient.Config
import SvixClient.Region
import SvixClient.Session
import SvixClient.Call
import SvixClient.Application
import SvixClient.Endpoint
import SvixClient.Message
import SvixClient.Operational
import SvixClient.Catalog
import SvixClient.Conventions
import SvixClient.Forwarding
import SvixClient.Facade
